import PageSession.Json.Value

/-!
# Laying one JSON value over another

Objects are merged member by member, at every depth; a null member of the
upper layer leaves the lower one as it is; anything else replaces.
-/

namespace PageSession

namespace Json

/-- Whether a value is null. -/
def Value.isNull : Value → Bool
  | .null => true
  | _ => false

mutual

/-- The lower value with the upper one laid over it. -/
def Value.overlay (lower : Value) : Value → Value
  | .object members =>
      match lower with
      | .object base => .object (overlayMembers base members)
      | _ => .object members
  | other => other

/-- The members of an object with those of another laid over them. -/
def overlayMembers (base : Members) : List (String × Value) → Members
  | [] => base
  | (key, value) :: rest =>
      let merged :=
        if value.isNull then base
        else
          match Members.get? key base with
          | some held => Members.insert key (held.overlay value) base
          | none => Members.insert key value base
      overlayMembers merged rest

end

end Json

end PageSession
