import PageSession.Client.Basic
import PageSession.Proofs.Json.Decoding

/-!
# Missing, null and surplus arguments

The methods that the page understands read their arguments by position, and take a
missing one for null.  What is understood depends only on what stands at the places that
a method has, and not on anything behind the first argument that the method refuses.

Two notifications are compared that agree at some first places.  The arguments are read
from left to right, and either the reading goes on with one that agrees, or it has been
broken off before.
-/

namespace PageSession

open Json

namespace PortalRequest

/-- How many arguments a method has that the page understands. -/
def arity (method : String) : Nat :=
  if method = Method.addPageResources then 3
  else if method = Method.lastPortalLayout then 2
  else if method = Method.invokePortletMethod then 4
  else 0

/-- A method refuses an argument at its place: the argument has the wrong type, or is
missing though it is required. -/
def Refuses (method : String) (index : Nat) (value : Value) : Prop :=
  if method = Method.addPageResources then
    value ≠ .null ∧
      match index with
      | 0 => ∀ texts, value ≠ .strings texts
      | 1 => ∀ text, value ≠ .string text
      | 2 => ∀ resources, Decode.list ScriptResource.decode value ≠ .ok resources
      | _ => False
  else if method = Method.invokePortletMethod then
    index < 3 ∧ ∀ text, value ≠ .string text
  else False

/-- A notification agrees with another one up to the last argument that the other one's
method has, or up to one that is refused. -/
structure Agree (notification other : Notification) : Prop where
  method : notification.method = other.method
  arguments : ∃ places,
    (∀ index < places, notification.rawParam index = other.rawParam index) ∧
      (arity other.method ≤ places ∨
        ∃ index < places, Refuses other.method index (other.rawParam index))

variable {notification other : Notification} {index : Nat} {α β : Type}
  {decode : Value → Decoded α}

/-! ## One argument -/

/-- An argument is read as null if it is missing. -/
theorem optionalParam_eq (decode : Value → Decoded α) (notification : Notification)
    (index : Nat) :
    notification.optionalParam decode index =
      match notification.rawParam index with
      | .null => .ok none
      | value =>
          match decode value with
          | .ok part => .ok (some part)
          | .error mismatch =>
              .error (.invalidParams notification.method
                ("argument " ++ Text.decimal index ++ ": " ++ mismatch.message)) := by
  unfold Notification.optionalParam Notification.rawParam
  cases notification.arguments[index]? with
  | none => rfl
  | some value => cases value <;> rfl

theorem optionalParam_of_ok {content : α} (given : notification.rawParam index ≠ .null)
    (decoded : decode (notification.rawParam index) = .ok content) :
    notification.optionalParam decode index = .ok (some content) := by
  rw [optionalParam_eq]
  split
  · next missing => exact absurd missing given
  · rw [decoded]

theorem optionalParam_congr (method : notification.method = other.method)
    (same : notification.rawParam index = other.rawParam index) :
    notification.optionalParam decode index = other.optionalParam decode index := by
  rw [optionalParam_eq, optionalParam_eq, same, method]

theorem requiredParam_congr (method : notification.method = other.method)
    (same : notification.rawParam index = other.rawParam index) :
    notification.requiredParam decode index = other.requiredParam decode index := by
  rw [Notification.requiredParam, Notification.requiredParam,
    optionalParam_congr method same, method]

theorem exists_optionalParam_iff :
    (∃ part, notification.optionalParam decode index = .ok part) ↔
      (notification.rawParam index ≠ .null →
        ∃ content, decode (notification.rawParam index) = .ok content) := by
  rw [optionalParam_eq]
  cases decoded : decode (notification.rawParam index) with
  | ok content => split <;> simp_all
  | error mismatch => split <;> simp_all

theorem exists_requiredParam_iff :
    (∃ text, notification.requiredParam Decode.string index = .ok text) ↔
      ∃ text, notification.rawParam index = .string text := by
  rw [Notification.requiredParam, optionalParam_eq]
  cases notification.rawParam index <;> simp [Decode.string, bind, Except.bind]

/-! ## One argument after the other -/

theorem bind_congr_of_ok {ε : Type} {first second : Except ε α}
    {next after : α → Except ε β}
    (same : first = second)
    (later : ∀ content, second = .ok content → next content = after content) :
    first >>= next = second >>= after := by
  subst same
  cases first with
  | error error => rfl
  | ok content => exact later content rfl

theorem exists_bind_iff {ε : Type} {first : Except ε α} {next : α → Except ε β} :
    (∃ result, first >>= next = .ok result) ↔
      ∃ content, first = .ok content ∧ ∃ result, next content = .ok result := by
  cases first <;> simp [bind, Except.bind]

/-- If no argument before a place is refused, the notifications agree at this place. -/
theorem Agree.rawParam_eq {limit : Nat} (agree : Agree notification other)
    (places : arity other.method = limit) (within : index < limit)
    (accepted : ∀ earlier < index, ¬ Refuses other.method earlier (other.rawParam earlier)) :
    notification.rawParam index = other.rawParam index := by
  obtain ⟨shared, same, stops⟩ := agree.arguments
  apply same
  by_contra behind
  rcases stops with whole | ⟨earlier, before, refused⟩
  · omega
  · exact accepted earlier (by omega) refused

section AddResources

variable (named : other.method = Method.addPageResources)
include named

theorem accepts_stylesheets_iff :
    ¬ Refuses other.method 0 (other.rawParam 0) ↔
      ∃ part, other.optionalParam (Decode.list Decode.string) 0 = .ok part := by
  rw [named, exists_optionalParam_iff]
  simp [Refuses, Decode.list_string_eq_ok_iff]

theorem accepts_style_iff :
    ¬ Refuses other.method 1 (other.rawParam 1) ↔
      ∃ part, other.optionalParam Decode.string 1 = .ok part := by
  rw [named, exists_optionalParam_iff]
  simp [Refuses, Decode.string_eq_ok_iff]

theorem accepts_scripts_iff :
    ¬ Refuses other.method 2 (other.rawParam 2) ↔
      ∃ part, other.optionalParam (Decode.list ScriptResource.decode) 2 = .ok part := by
  rw [named, exists_optionalParam_iff]
  simp [Refuses]

theorem exists_addResourcesOf_iff :
    (∃ request, addResourcesOf other = .ok request) ↔
      ∀ index, ¬ Refuses other.method index (other.rawParam index) := by
  have beyond : ∀ index value, ¬ Refuses other.method (index + 3) value := by
    intro index value
    rw [named]
    exact fun refused => refused.2
  constructor
  · intro understood
    obtain ⟨_, stylesheets, understood⟩ := exists_bind_iff.mp understood
    obtain ⟨_, style, understood⟩ := exists_bind_iff.mp understood
    obtain ⟨_, scripts, _⟩ := exists_bind_iff.mp understood
    intro index
    match index with
    | 0 => exact (accepts_stylesheets_iff named).mpr ⟨_, stylesheets⟩
    | 1 => exact (accepts_style_iff named).mpr ⟨_, style⟩
    | 2 => exact (accepts_scripts_iff named).mpr ⟨_, scripts⟩
    | index + 3 => exact beyond index _
  · intro accepted
    obtain ⟨_, stylesheets⟩ := (accepts_stylesheets_iff named).mp (accepted 0)
    obtain ⟨_, style⟩ := (accepts_style_iff named).mp (accepted 1)
    obtain ⟨_, scripts⟩ := (accepts_scripts_iff named).mp (accepted 2)
    rw [addResourcesOf, stylesheets, style, scripts]
    exact ⟨_, rfl⟩

theorem Agree.addResourcesOf_eq (agree : Agree notification other) :
    addResourcesOf notification = addResourcesOf other := by
  have places : arity other.method = 3 := by
    rw [named]
    rfl
  -- What was read was accepted, and so the notifications agree at the next place.
  have acceptsNone : ∀ earlier < 0, ¬ Refuses other.method earlier (other.rawParam earlier) :=
    nofun
  have same := agree.rawParam_eq places (by omega) acceptsNone
  apply bind_congr_of_ok (optionalParam_congr agree.method same)
  intro stylesheets readStylesheets
  have first := (accepts_stylesheets_iff named).mpr ⟨_, readStylesheets⟩
  have acceptsOne := Nat.forall_lt_succ_right.mpr ⟨acceptsNone, first⟩
  have same := agree.rawParam_eq places (by omega) acceptsOne
  apply bind_congr_of_ok (optionalParam_congr agree.method same)
  intro style readStyle
  have second := (accepts_style_iff named).mpr ⟨_, readStyle⟩
  have acceptsTwo := Nat.forall_lt_succ_right.mpr ⟨acceptsOne, second⟩
  have same := agree.rawParam_eq places (by omega) acceptsTwo
  apply bind_congr_of_ok (optionalParam_congr agree.method same)
  exact fun _ _ => rfl

end AddResources

section CallPortlet

variable (named : other.method = Method.invokePortletMethod)
include named

theorem accepts_text_iff (place : index < 3) :
    ¬ Refuses other.method index (other.rawParam index) ↔
      ∃ text, other.requiredParam Decode.string index = .ok text := by
  have refuses : Refuses Method.invokePortletMethod index (other.rawParam index) ↔
      index < 3 ∧ ∀ text, other.rawParam index ≠ .string text := Iff.rfl
  rw [named, refuses, exists_requiredParam_iff]
  simp [place]

theorem exists_callPortletOf_iff :
    (∃ request, callPortletOf other = .ok request) ↔
      ∀ index, ¬ Refuses other.method index (other.rawParam index) := by
  have beyond : ∀ index value, ¬ Refuses other.method (index + 3) value := by
    intro index value
    rw [named]
    exact fun refused => absurd refused.1 (by omega)
  constructor
  · intro understood
    obtain ⟨_, portletClass, understood⟩ := exists_bind_iff.mp understood
    obtain ⟨_, portlet, understood⟩ := exists_bind_iff.mp understood
    obtain ⟨_, method, _⟩ := exists_bind_iff.mp understood
    intro index
    match index with
    | 0 => exact (accepts_text_iff named (by omega)).mpr ⟨_, portletClass⟩
    | 1 => exact (accepts_text_iff named (by omega)).mpr ⟨_, portlet⟩
    | 2 => exact (accepts_text_iff named (by omega)).mpr ⟨_, method⟩
    | index + 3 => exact beyond index _
  · intro accepted
    obtain ⟨_, portletClass⟩ := (accepts_text_iff named (by omega)).mp (accepted 0)
    obtain ⟨_, portlet⟩ := (accepts_text_iff named (by omega)).mp (accepted 1)
    obtain ⟨_, method⟩ := (accepts_text_iff named (by omega)).mp (accepted 2)
    rw [callPortletOf, portletClass, portlet, method]
    exact ⟨_, rfl⟩

theorem Agree.callPortletOf_eq (agree : Agree notification other) :
    callPortletOf notification = callPortletOf other := by
  have places : arity other.method = 4 := by
    rw [named]
    rfl
  have acceptsNone : ∀ earlier < 0, ¬ Refuses other.method earlier (other.rawParam earlier) :=
    nofun
  have same := agree.rawParam_eq places (by omega) acceptsNone
  apply bind_congr_of_ok (requiredParam_congr agree.method same)
  intro portletClass readClass
  have first := (accepts_text_iff named (by omega)).mpr ⟨_, readClass⟩
  have acceptsOne := Nat.forall_lt_succ_right.mpr ⟨acceptsNone, first⟩
  have same := agree.rawParam_eq places (by omega) acceptsOne
  apply bind_congr_of_ok (requiredParam_congr agree.method same)
  intro portlet readPortlet
  have second := (accepts_text_iff named (by omega)).mpr ⟨_, readPortlet⟩
  have acceptsTwo := Nat.forall_lt_succ_right.mpr ⟨acceptsOne, second⟩
  have same := agree.rawParam_eq places (by omega) acceptsTwo
  apply bind_congr_of_ok (requiredParam_congr agree.method same)
  intro method readMethod
  have third := (accepts_text_iff named (by omega)).mpr ⟨_, readMethod⟩
  have acceptsThree := Nat.forall_lt_succ_right.mpr ⟨acceptsTwo, third⟩
  rw [agree.rawParam_eq places (by omega) acceptsThree]

end CallPortlet

/-- A fourth argument that is neither null nor a list counts as a list of itself. -/
theorem callPortletOf_single {first second third value : Value} {surplus : List Value}
    (given : value ≠ .null) (single : ∀ items, value ≠ .array items) :
    callPortletOf (.carrying Method.invokePortletMethod
        (first :: second :: third :: value :: surplus)) =
      callPortletOf (.carrying Method.invokePortletMethod
        (first :: second :: third :: .array [value] :: surplus)) := by
  have params : callParams value = [value] := by
    cases value <;> simp_all [callParams]
  apply bind_congr_of_ok (requiredParam_congr rfl rfl)
  intro portletClass _
  apply bind_congr_of_ok (requiredParam_congr rfl rfl)
  intro portlet _
  apply bind_congr_of_ok (requiredParam_congr rfl rfl)
  intro method _
  have same : callParams value = callParams (.array [value]) := params
  exact congrArg (fun params => Except.ok (PortalRequest.callPortlet ⟨_, _, _, params⟩)) same

/-! ## All methods -/

theorem Agree.rawParam_eq_of_lastPortalLayout (agree : Agree notification other)
    (named : other.method = Method.lastPortalLayout) (within : index < 2) :
    notification.rawParam index = other.rawParam index := by
  have accepts : ∀ place value, ¬ Refuses other.method place value := by
    intro place value
    rw [named]
    exact id
  have places : arity other.method = 2 := by
    rw [named]
    rfl
  exact agree.rawParam_eq places within fun _ _ => accepts _ _

theorem Agree.ofNotification_eq (agree : Agree notification other)
    (understood : other.method ∈ Client.standardMethods) :
    ofNotification notification = ofNotification other := by
  unfold ofNotification
  rw [agree.method]
  split
  · rfl
  · split
    · next named => exact agree.addResourcesOf_eq named
    · split
      · next named =>
          rw [agree.rawParam_eq_of_lastPortalLayout named Nat.zero_lt_two,
            agree.rawParam_eq_of_lastPortalLayout named Nat.one_lt_two]
      · split
        · next named => exact agree.callPortletOf_eq named
        · simp_all [Client.standardMethods]

/-- A notification is understood exactly if its method refuses none of its arguments. -/
theorem exists_ofNotification_iff :
    (∃ request, ofNotification other = .ok request) ↔
      ∀ index, ¬ Refuses other.method index (other.rawParam index) := by
  have accepts : ∀ {method : String}, method ≠ Method.addPageResources →
      method ≠ Method.invokePortletMethod → ∀ index value, ¬ Refuses method index value := by
    intro method notResources notCall index value
    simp [Refuses, notResources, notCall]
  unfold ofNotification
  split
  · next named =>
      have accepted := @accepts other.method (by rw [named]; decide) (by rw [named]; decide)
      simp [accepted]
  · split
    · next named => exact exists_addResourcesOf_iff named
    · next notResources =>
        split
        · next named =>
            have accepted := accepts notResources (by rw [named]; decide)
            simp [accepted]
        · split
          · next named => exact exists_callPortletOf_iff named
          · next notCall => simp [accepts notResources notCall]

section Lists

variable (method : String) {params others : List Value}

theorem rawParam_append_nulls (params : List Value) (count index : Nat) :
    (Notification.carrying method (params ++ List.replicate count .null)).rawParam index =
      (Notification.carrying method params).rawParam index := by
  simp only [Notification.rawParam, Notification.arguments, Notification.carrying,
    Option.getD_some, List.getElem?_append, List.getElem?_replicate]
  split
  · rfl
  · next behind =>
      rw [List.getElem?_eq_none (Nat.not_lt.mp behind)]
      split <;> rfl

theorem rawParam_eq_of_take_eq {places : Nat} (same : params.take places = others.take places)
    {index : Nat} (within : index < places) :
    (Notification.carrying method params).rawParam index =
      (Notification.carrying method others).rawParam index := by
  have placed : params[index]? = others[index]? := by
    rw [← List.getElem?_take_of_lt within, same, List.getElem?_take_of_lt within]
  exact congrArg (·.getD .null) placed

end Lists

/-- What the page understands of one of its methods is the same whether null arguments at
the end are given or not, whether there are no params or an empty list of them, and
whatever stands beyond the last argument of the method.  It is an error exactly if an
argument is refused, and then does not depend on anything behind the first one refused.
A fourth argument of a portlet call that is neither null nor a list counts as a list of
itself. -/
theorem ofNotification_missing_and_surplus :
    (∀ method ∈ Client.standardMethods,
      (∀ params count,
        ofNotification (.carrying method (params ++ List.replicate count .null)) =
          ofNotification (.carrying method params)) ∧
      ofNotification (.bare method) = ofNotification (.carrying method []) ∧
      (∀ params others, params.take (arity method) = others.take (arity method) →
        ofNotification (.carrying method params) = ofNotification (.carrying method others)) ∧
      ∀ params,
        ((∃ error, ofNotification (.carrying method params) = .error error) ↔
          ∃ index, Refuses method index ((Notification.carrying method params).rawParam index)) ∧
        ∀ others index,
          Refuses method index ((Notification.carrying method params).rawParam index) →
          (∀ place ≤ index, (Notification.carrying method params).rawParam place =
            (Notification.carrying method others).rawParam place) →
          ofNotification (.carrying method params) =
            ofNotification (.carrying method others)) ∧
    ∀ first second third value surplus, value ≠ .null → (∀ items, value ≠ .array items) →
      ofNotification (.carrying Method.invokePortletMethod
          (first :: second :: third :: value :: surplus)) =
        ofNotification (.carrying Method.invokePortletMethod
          (first :: second :: third :: .array [value] :: surplus)) := by
  constructor
  · intro method understood
    have whole : ∀ notification other : Notification, notification.method = method →
        other.method = method →
        (∀ index < arity method, notification.rawParam index = other.rawParam index) →
          ofNotification notification = ofNotification other := by
      rintro notification other named rfl same
      exact Agree.ofNotification_eq ⟨named, _, same, .inl le_rfl⟩ understood
    refine ⟨?nulls, ?absent, ?surplus, ?refused⟩
    case nulls =>
      intro params count
      exact whole _ _ rfl rfl fun index _ => rawParam_append_nulls method params count index
    case absent => exact whole _ _ rfl rfl fun _ _ => rfl
    case surplus =>
      intro params others same
      exact whole _ _ rfl rfl fun index within => rawParam_eq_of_take_eq method same within
    case refused =>
      intro params
      constructor
      · have reads := (@exists_ofNotification_iff (.carrying method params)).not
        rw [not_forall_not] at reads
        refine Iff.trans ?_ reads
        cases ofNotification (.carrying method params) <;> simp
      · intro others index refused same
        refine Agree.ofNotification_eq ⟨rfl, index + 1, ?_, .inr ⟨index, ?_, ?_⟩⟩ understood
        · exact fun place within => same place (Nat.lt_succ_iff.mp within)
        · exact Nat.lt_succ_self index
        · exact same index le_rfl ▸ refused
  · intro first second third value surplus given single
    exact callPortletOf_single given single

/-- A style that is no text hides scripts that are none either, and a call is given its
only parameter without a list around it. -/
theorem ofNotification_missing_and_surplus_refused :
    let announce (params : List Value) :=
      ofNotification (.carrying Method.addPageResources params)
    let call (params : List Value) :=
      ofNotification (.carrying Method.invokePortletMethod params)
    let refused : List Value := [.null, .bool true, .string "scripts"]
    let texts : List Value := [.string "Clock", .string "p1", .string "tick"]
    Method.addPageResources ∈ Client.standardMethods ∧
      Refuses Method.addPageResources 1 (.bool true) ∧
      announce refused = announce [.null, .bool true] ∧
      call (texts ++ [.nat 12, .null]) = call (texts ++ [.array [.nat 12]]) := by
  intro announce call refused texts
  obtain ⟨each, single⟩ := ofNotification_missing_and_surplus
  have understood : ∀ method ∈ [Method.addPageResources, Method.invokePortletMethod],
      method ∈ Client.standardMethods := by decide
  obtain ⟨_, _, _, announced⟩ := each Method.addPageResources (understood _ (by simp))
  obtain ⟨nulls, _⟩ := each Method.invokePortletMethod (understood _ (by simp))
  have places : ∀ place ≤ 1, (Notification.carrying Method.addPageResources refused).rawParam
      place = (Notification.carrying Method.addPageResources [.null, .bool true]).rawParam
        place := by
    intro place within
    interval_cases place <;> rfl
  have wrong : Refuses Method.addPageResources 1
      ((Notification.carrying Method.addPageResources refused).rawParam 1) :=
    ⟨nofun, nofun⟩
  have dropped : call (texts ++ [.nat 12, .null]) = call (texts ++ [.nat 12]) :=
    nulls (texts ++ [.nat 12]) 1
  have wrapped : call (texts ++ [.nat 12]) = call (texts ++ [.array [.nat 12]]) :=
    single _ _ _ (.nat 12) [] (by simp [Value.nat]) (by simp [Value.nat])
  exact ⟨understood _ (by simp), wrong, (announced refused).2 _ 1 wrong places,
    dropped.trans wrapped⟩

end PortalRequest

end PageSession
