import PageSession.Proofs.Json.Overlay
import PageSession.Settings.Load

/-!
# Settings as they are written

A section is written with its members in their own order, and read with them in the
order of their keys.  Settings are proper if they can be held: their counts have 64
bits, and their table of levels names every part once.
-/

namespace PageSession.Settings

open Json

variable {settings : Settings}

/-- Each section's name and members. -/
def sections (settings : Settings) : List (String × Members) :=
  [("transport", settings.connection.members), ("resources", settings.scripts.members),
    ("session", settings.session.members), ("logging", settings.log.members)]

/-- The settings as a value whose members stand as they are declared. -/
def declared (settings : Settings) : Value :=
  .object (settings.sections.map fun (name, members) => (name, .object members))

/-- Counts have 64 bits, and levels stand in the order of the names they are for. -/
structure Proper (settings : Settings) : Prop where
  reconnectDelay : settings.connection.reconnectDelay ≤ greatestCount
  keepAliveInterval : settings.connection.keepAliveInterval ≤ greatestCount
  maxInactivity : settings.connection.maxInactivity ≤ greatestCount
  loadTimeout : settings.scripts.loadTimeout ≤ greatestCount
  modules : (settings.log.modules.map Prod.fst).Pairwise (· < ·)

theorem proper_default : Proper {} := by
  constructor <;> decide

theorem toJson_eq_sections (settings : Settings) :
    settings.toJson =
      .ofMembers (settings.sections.map fun (name, members) => (name, .ofMembers members)) :=
  rfl

/-- The levels of single parts, as they are written. -/
def levels (settings : Settings) : Members :=
  settings.log.modules.map fun (name, level) => (name, .string level)

theorem exists_of_mem_levels {member : String × Value} (placed : member ∈ settings.levels) :
    ∃ level, member.2 = .string level := by
  obtain ⟨entry, -, rfl⟩ := List.mem_map.mp placed
  exact ⟨entry.2, rfl⟩

/-- What holds of texts, truth values, counts and the table of levels holds of
everything that a section has. -/
theorem forall_sections (proper : settings.Proper) (property : Value → Prop)
    (text : ∀ text, property (.string text)) (flag : ∀ flag, property (.bool flag))
    (count : ∀ count ≤ greatestCount, property (.nat count))
    (table : property (.object settings.levels)) :
    ∀ part ∈ settings.sections, ∀ member ∈ part.2, property member.2 := by
  simp only [sections, List.forall_mem_cons]
  refine ⟨?transport, ?resources, ?session, ?logging, nofun⟩
  case transport =>
    simp only [ConnectionSettings.members, List.forall_mem_cons]
    exact ⟨text _, count _ proper.reconnectDelay, count _ proper.keepAliveInterval,
      count _ proper.maxInactivity, nofun⟩
  case resources =>
    simp only [ScriptSettings.members, List.forall_mem_cons]
    exact ⟨count _ proper.loadTimeout, nofun⟩
  case session =>
    cases path : settings.session.storagePath <;>
      simp [SessionSettings.members, path, text]
  case logging =>
    simp only [LogSettings.members, List.forall_mem_append, List.forall_mem_cons]
    refine ⟨⟨text _, flag _, nofun⟩, ?_⟩
    split
    · exact nofun
    · exact List.forall_mem_singleton.mpr table

theorem canonical_sections (proper : settings.Proper) :
    ∀ part ∈ settings.sections, ∀ member ∈ part.2, member.2.Canonical := by
  apply forall_sections proper Value.Canonical canonical_string canonical_bool
  · intro count small
    exact canonical_nat (Int.ofNat_le.mpr small)
  · have ordered : Members.Ordered settings.levels := by
      simpa [Members.Ordered, levels, Function.comp_def] using proper.modules
    refine canonical_object.mpr ⟨ordered, ?_⟩
    intro member placed
    obtain ⟨level, written⟩ := exists_of_mem_levels placed
    exact written ▸ canonical_string level

theorem canonical_toJson (proper : settings.Proper) : settings.toJson.Canonical := by
  rw [toJson_eq_sections]
  apply canonical_ofMembers
  intro member placed
  obtain ⟨part, inside, rfl⟩ := List.mem_map.mp placed
  exact canonical_ofMembers (canonical_sections proper part inside)

end PageSession.Settings
