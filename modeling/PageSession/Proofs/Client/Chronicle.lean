import PageSession.Proofs.Client.Dispatch

/-!
# Runs told deed by deed

A run is told by what was done in it: which calls began and which duties were carried
out, in order.  Any number of calls may be in progress, or only a single one, where the
next call begins when nothing is left to do.  Whatever the functions of a client do, one
call after the other, is such a run.
-/

open Relation

namespace PageSession.Client

/-- A call begins, or a duty is carried out. -/
inductive Deed where
  | begin (call : Call)
  | perform (duty : Duty)

def Deed.effect (client : Client) : Deed → Effect
  | .begin call => call.start client
  | .perform duty => duty.step client

/-- The activities that a deed may lead to. -/
inductive Activity.Does (activity : Activity) : Deed → Activity → Prop
  | begin (call : Call) :
      Does activity (.begin call)
        { client := (call.start activity.client).client
          calls := activity.calls ++ [(call.start activity.client).duties]
          history := activity.history ++ (call.start activity.client).moments }
  | proceed {before after : List (List Duty)} {duty : Duty} {rest : List Duty}
      (chosen : activity.calls = before ++ (duty :: rest) :: after) :
      Does activity (.perform duty)
        { client := (duty.step activity.client).client
          calls := before ++ ((duty.step activity.client).duties ++ rest) :: after
          history := activity.history ++ (duty.step activity.client).moments }

/-- What was done since a client was started, and the activity it led to. -/
inductive Chronicle (single : Bool) (start : Client) : List Deed → Activity → Prop
  | start : Chronicle single start [] { client := start }
  | does {deeds : List Deed} {deed : Deed} {activity other : Activity}
      (told : Chronicle single start deeds activity)
      (free : single = true → ∀ call, deed = .begin call → activity.duties = [])
      (does : activity.Does deed other) :
      Chronicle single start (deeds ++ [deed]) other

variable {single : Bool} {start client : Client} {deeds : List Deed} {deed : Deed}
  {activity other : Activity}

theorem Activity.step_iff : activity.Step other ↔ ∃ deed, activity.Does deed other := by
  constructor
  · rintro (⟨call⟩ | ⟨chosen⟩)
    · exact ⟨_, .begin call⟩
    · exact ⟨_, .proceed chosen⟩
  · rintro ⟨_, ⟨call⟩ | ⟨chosen⟩⟩
    · exact .begin call
    · exact .proceed chosen

theorem exists_chronicle_iff :
    (∃ deeds, Chronicle false start deeds activity) ↔
      ReflTransGen Activity.Step { client := start } activity := by
  constructor
  · rintro ⟨deeds, told⟩
    induction told with
    | start => exact .refl
    | does _ _ does induction => exact induction.tail (Activity.step_iff.mpr ⟨_, does⟩)
  · intro reached
    induction reached with
    | refl => exact ⟨[], .start⟩
    | tail _ last induction =>
        obtain ⟨deeds, told⟩ := induction
        obtain ⟨deed, does⟩ := Activity.step_iff.mp last
        exact ⟨deeds ++ [deed], told.does nofun does⟩

namespace Chronicle

theorem proceed {before after : List (List Duty)} {duty : Duty} {rest : List Duty}
    (told : Chronicle single start deeds activity)
    (chosen : activity.calls = before ++ (duty :: rest) :: after) :
    Chronicle single start (deeds ++ [.perform duty])
      { client := (duty.step activity.client).client
        calls := before ++ ((duty.step activity.client).duties ++ rest) :: after
        history := activity.history ++ (duty.step activity.client).moments } :=
  told.does (fun _ _ => nofun) (.proceed chosen)

theorem interleaved (told : Chronicle single start deeds activity) :
    Chronicle false start deeds activity := by
  induction told with
  | start => exact .start
  | does _ _ does induction => exact induction.does nofun does

theorem sound (told : Chronicle single start deeds activity) (fresh : start.inbox = {}) :
    activity.Sound := by
  have started : Activity.Sound { client := start } := by
    unfold Activity.Sound
    rw [fresh]
    exact sound_start
  exact started.reaches (exists_chronicle_iff.mp ⟨deeds, told.interleaved⟩)

/-! ## One call at a time -/

section Single

variable {before after : List (List Duty)} {duty : Duty} {rest : List Duty}

theorem countP_others {limit : Nat} (few : activity.calls.countP (!·.isEmpty) ≤ limit + 1)
    (chosen : activity.calls = before ++ (duty :: rest) :: after) :
    before.countP (!·.isEmpty) + after.countP (!·.isEmpty) ≤ limit := by
  rw [chosen, List.countP_append, List.countP_cons_of_pos (by simp)] at few
  omega

/-- Where one call begins after the other, at most one has something left to do. -/
theorem countP_calls_le_one (told : Chronicle true start deeds activity) :
    activity.calls.countP (!·.isEmpty) ≤ 1 := by
  induction told with
  | start => simp
  | does _ free does induction =>
      cases does with
      | begin call =>
          have ended := List.flatten_eq_nil_iff.mp (free rfl call rfl)
          rw [List.countP_append, List.countP_eq_zero.mpr (by simpa using ended), Nat.zero_add]
          exact List.countP_le_length
      | proceed chosen =>
          have others := countP_others induction chosen
          rw [List.countP_append, List.countP_cons]
          split <;> omega

theorem others_eq_nil (told : Chronicle true start deeds activity)
    (chosen : activity.calls = before ++ (duty :: rest) :: after) :
    before.flatten = [] ∧ after.flatten = [] := by
  have others := countP_others told.countP_calls_le_one chosen
  rw [Nat.le_zero, Nat.add_eq_zero_iff, List.countP_eq_zero, List.countP_eq_zero] at others
  simpa using others

end Single

/-! ## The functions of the client -/

theorem unwinds {result : Client} {duties : List Duty} {moments history : List Moment}
    {before after : List (List Duty)}
    (told : Chronicle single start deeds
      { client, calls := before ++ duties :: after, history })
    (unwinds : Unwinds client duties moments result) :
    ∃ more, Chronicle single start (deeds ++ more)
      { client := result, calls := before ++ [] :: after, history := history ++ moments } := by
  induction unwinds generalizing deeds history with
  | done client => exact ⟨[], by simpa using told⟩
  | @step client _ duty _ _ _ induction =>
      obtain ⟨more, told⟩ := induction (told.proceed rfl)
      exact ⟨.perform duty :: more, by simpa using told⟩

/-- Calls made one after the other, each to its end, do what the functions of the client
do. -/
theorem calls (told : Chronicle single start deeds activity)
    (idle : activity.client.inbox.dispatching = false) (ended : activity.duties = [])
    (calls : List Call) :
    ∃ more other, Chronicle single start (deeds ++ more) other ∧ other.duties = [] ∧
      other.client = calls.foldl Call.result activity.client := by
  induction calls generalizing deeds activity with
  | nil => exact ⟨[], activity, by simpa using told, ended, rfl⟩
  | cons call calls induction =>
      have carries := carries_call idle call
      obtain ⟨moments, unwinds⟩ := carries.unwinds
      have begun := told.does (fun _ _ _ => ended) (.begin call)
      obtain ⟨first, called⟩ := begun.unwinds unwinds
      have endedNow : (activity.calls ++ [[]]).flatten = [] := by
        simpa [Activity.duties] using ended
      obtain ⟨later, other, told, endedAgain, same⟩ := induction called carries.flag endedNow
      exact ⟨[.begin call] ++ first ++ later, other, by simpa using told, endedAgain, same⟩

end Chronicle

end PageSession.Client
