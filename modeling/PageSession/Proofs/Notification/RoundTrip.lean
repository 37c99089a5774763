import PageSession.Proofs.Notification.Defects

/-!
# A frame holds the notification it was written from

The frame of a notification is read as the same notification, if its parameters
hold no floats and nest no deeper than a reader allows inside of a frame.  The
parameters of a notification that was read from any frame never nest deeper.
-/

namespace PageSession.Notification

open Json

/-- How deep a parameter may nest. -/
def depthLimit : Nat := 125

/-- Two levels belong to the frame. -/
theorem depthLimit_add_two : depthLimit + 2 = Assembly.depthLimit := rfl

/-- A parameter that is read again from the frame. -/
structure Writable (param : Value) : Prop where
  canonical : param.Canonical
  exact : param.Exact
  shallow : param.depth ≤ depthLimit

variable {notification : Notification} {members : Members}

/-- The members of a frame that holds a notification of the same parameters. -/
theorem ofMembers_members (notification : Notification) :
    ofMembers notification.members = .ok notification := by
  obtain ⟨method, params⟩ := notification
  cases params <;> rfl

theorem ordered_members (notification : Notification) :
    Members.Ordered notification.members := by
  have bare : ["jsonrpc", "method"].Pairwise (· < ·) := by decide
  have carrying : ["jsonrpc", "method", "params"].Pairwise (· < ·) := by decide
  obtain ⟨method, params⟩ := notification
  cases params with
  | none => exact bare
  | some params => exact carrying

/-- What holds of texts and of lists of the parameters holds of all members. -/
theorem forall_members (property : Value → Prop) (text : ∀ text, property (.string text))
    (params : ∀ params, notification.params = some params → property (.array params)) :
    ∀ member ∈ notification.members, property member.2 := by
  obtain ⟨method, given⟩ := notification
  cases given with
  | none => simp [members, text]
  | some given => simp [members, text, params given rfl]

theorem mem_arguments {params : List Value} (given : notification.params = some params) :
    notification.arguments = params := by
  simp [arguments, given]

theorem ofFrame_of_writable (writable : ∀ param ∈ notification.arguments, Writable param) :
    ofFrame notification.frame = .ok notification := by
  have text : ∀ text, (Value.string text).Canonical ∧ (Value.string text).Exact ∧
      (Value.string text).depth ≤ Assembly.depthLimit - 1 := by
    simp [Value.Canonical, Value.Exact, Value.parts, Value.Lawful, Value.isFloat, Value.depth]
  have canonical : (Value.object notification.members).Canonical := by
    apply canonical_object.mpr
    refine ⟨ordered_members notification, forall_members Value.Canonical (fun held => (text held).1) ?_⟩
    intro params given
    rw [mem_arguments given] at writable
    exact canonical_array.mpr fun param member => (writable param member).canonical
  have exact : (Value.object notification.members).Exact := by
    apply exact_object.mpr
    refine forall_members Value.Exact (fun held => (text held).2.1) ?_
    intro params given
    rw [mem_arguments given] at writable
    exact exact_array.mpr fun param member => (writable param member).exact
  have shallow : (Value.object notification.members).depth ≤ Assembly.depthLimit := by
    have inner : membersDepth notification.members ≤ Assembly.depthLimit - 1 := by
      apply membersDepth_le_iff.mpr
      refine forall_members (·.depth ≤ _) (fun held => (text held).2.2) ?_
      intro params given
      rw [mem_arguments given] at writable
      have deep : itemsDepth params ≤ depthLimit :=
        itemsDepth_le_iff.mpr fun param member => (writable param member).shallow
      have levels := depthLimit_add_two
      rw [Value.depth]
      omega
    have levels := depthLimit_add_two
    rw [Value.depth]
    omega
  rw [ofFrame, frame, read_text canonical exact shallow]
  exact ofMembers_members notification

/-- The parameters of a notification that was read are canonical, and nest no
deeper than is allowed inside of a frame. -/
theorem canonical_of_ofFrame {text : String} (read : ofFrame text = .ok notification) :
    ∀ param ∈ notification.arguments, param.Canonical ∧ param.depth ≤ depthLimit := by
  unfold ofFrame at read
  split at read
  · contradiction
  · next members held =>
      obtain ⟨canonical, shallow⟩ := fits_read held
      obtain ⟨_, inner⟩ := canonical_object.mp canonical
      intro param given
      cases params : notification.params with
      | none => simp [arguments, params] at given
      | some items =>
          rw [mem_arguments params] at given
          have described := (ofMembers_eq_ok_iff.mp read).params
          rw [params] at described
          have member := mem_of_get?_eq_some described
          refine ⟨canonical_array.mp (inner _ member) param given, ?_⟩
          have whole : membersDepth members ≤ Assembly.depthLimit - 1 := by
            rw [Value.depth] at shallow
            omega
          have array := membersDepth_le_iff.mp whole _ member
          rw [Value.depth] at array
          have levels := depthLimit_add_two
          apply itemsDepth_le_iff.mp _ param given
          omega
  · contradiction

/-- The frame of a notification whose parameters hold no floats is read as that
notification, if they do not nest too deep.  If the notification was itself read
from a text they never do, and it is written again as the same frame. -/
theorem ofFrame_frame (notification : Notification) :
    ((∀ param ∈ notification.arguments, Writable param) →
      ofFrame notification.frame = .ok notification) ∧
    ∀ text, ofFrame text = .ok notification →
      (∀ param ∈ notification.arguments, param.Exact) →
        ofFrame notification.frame = .ok notification ∧
          (ofFrame notification.frame).map frame = .ok notification.frame := by
  refine ⟨ofFrame_of_writable, ?_⟩
  intro text read exact
  have lawful := canonical_of_ofFrame read
  have again : ofFrame notification.frame = .ok notification := by
    apply ofFrame_of_writable
    intro param given
    obtain ⟨canonical, shallow⟩ := lawful param given
    exact ⟨canonical, exact param given, shallow⟩
  refine ⟨again, ?_⟩
  rw [again]
  rfl

/-- The greatest and the least integer beside a text with characters that are
escaped; and a notification read from a text with blanks, whose members stand in
another order. -/
theorem ofFrame_frame_escaped :
    let written := carrying "say\"\\\n\x01é"
      [.number (.integer Number.greatestInteger), .number (.integer Number.leastInteger),
        .string "\x1f\x7f", .array []]
    let read := carrying "x" [.object [("a", .array [.number (.integer (-1))]), ("b", .null)]]
    let text := "\x7b\"params\": [\x7b\"b\":null,\"a\":[-1]\x7d],\"method\":\"\\u0078\"\x7d"
    (∀ param ∈ written.arguments, Writable param) ∧
      ofFrame written.frame = .ok written ∧
      ofFrame text = .ok read ∧ (∀ param ∈ read.arguments, param.Exact) ∧
      (ofFrame read.frame).map frame = .ok read.frame := by
  intro written read text
  have writable : ∀ param ∈ written.arguments, Writable param := by
    intro param given
    simp only [written, arguments, carrying, Option.getD_some, List.mem_cons,
      List.not_mem_nil, or_false] at given
    rcases given with rfl | rfl | rfl | rfl <;>
      exact ⟨by simp [Value.Canonical, Value.parts, itemsParts, Value.Lawful,
          Number.leastInteger, Number.greatestInteger],
        by simp [Value.Exact, Value.parts, itemsParts, Value.isFloat], by decide⟩
  have taken : ofFrame text = .ok read := by
    simp only [text, read]
    rfl
  have exact : ∀ param ∈ read.arguments, param.Exact := by
    simp [read, arguments, carrying, Value.Exact, Value.parts, itemsParts, membersParts,
      Value.isFloat]
  exact ⟨writable, (ofFrame_frame written).1 writable, taken, exact,
    ((ofFrame_frame read).2 text taken exact).2⟩

end PageSession.Notification
