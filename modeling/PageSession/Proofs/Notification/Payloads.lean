import PageSession.Proofs.Notification.Arguments
import PageSession.Proofs.Notification.RoundTrip

/-!
# The page understands what the portal says

What the portal puts into the parameters of a notification is what the page makes of the
frame.  The frame gives the parameters back as they were written; the resources that they
announce are decoded from them, script by script and list by list, and everything else is
taken from its place.
-/

namespace PageSession

open Json Json.Decode

namespace ScriptResource

/-- The members of the wire form in the order of their keys. -/
theorem toJson_eq (resource : ScriptResource) :
    resource.toJson =
      .object
        ([("provides", .strings resource.provides), ("requires", .strings resource.requires)] ++
          (resource.source.map fun source => ("source", Value.string source)).toList ++
          (resource.uri.map fun uri => ("uri", Value.string uri)).toList) := by
  obtain ⟨uri, source, provides, requires⟩ := resource
  cases uri <;> cases source <;>
    simp +decide only [toJson, Value.ofMembers, members, Members.ofList, Members.insert,
      Option.map_some, Option.map_none, Option.toList_some, Option.toList_none, List.cons_append,
      List.nil_append, List.append_nil, List.foldl_cons, List.foldl_nil, if_true, if_false]

theorem decode_toJson (resource : ScriptResource) : decode resource.toJson = .ok resource := by
  have text : ∀ text, optional string (.string text) = .ok (some text) := fun _ => rfl
  have texts : ∀ texts, list string (.strings texts) = .ok texts :=
    fun _ => list_string_eq_ok_iff.mpr rfl
  rw [toJson_eq]
  obtain ⟨uri, source, provides, requires⟩ := resource
  cases uri <;> cases source <;>
    simp [decode, record, Decode.members, fields, text, texts, bind, Except.bind, pure, Except.pure]

/-- What holds of texts and of lists of them holds of all members. -/
theorem forall_members (property : Value → Prop) (text : ∀ text, property (.string text))
    (texts : ∀ texts, property (.strings texts)) (resource : ScriptResource) :
    ∀ member ∈ resource.members, property member.2 := by
  obtain ⟨uri, source, provides, requires⟩ := resource
  cases uri <;> cases source <;> simp [members, text, texts]

end ScriptResource

/-! ## Parameters that the frame gives back -/

namespace Notification

theorem writable_null : Writable .null := by
  constructor <;>
    simp [Value.Canonical, Value.Exact, Value.parts, Value.Lawful, Value.isFloat, Value.depth]

theorem writable_string (text : String) : Writable (.string text) := by
  constructor <;>
    simp [Value.Canonical, Value.Exact, Value.parts, Value.Lawful, Value.isFloat, Value.depth]

theorem writable_array {items : List Value} {levels : Nat} (room : levels < depthLimit)
    (writable : ∀ item ∈ items, Writable item)
    (shallow : ∀ item ∈ items, item.depth ≤ levels) : Writable (.array items) where
  canonical := canonical_array.mpr fun item placed => (writable item placed).canonical
  exact := exact_array.mpr fun item placed => (writable item placed).exact
  shallow := by
    have inner := itemsDepth_le_iff.mpr shallow
    rw [Value.depth]
    omega

theorem writable_ofMembers {pairs : List (String × Value)} {levels : Nat}
    (room : levels < depthLimit) (writable : ∀ pair ∈ pairs, Writable pair.2)
    (shallow : ∀ pair ∈ pairs, pair.2.depth ≤ levels) : Writable (.ofMembers pairs) where
  canonical := canonical_ofMembers fun pair placed => (writable pair placed).canonical
  exact := exact_object.mpr fun pair placed => (writable pair (mem_of_mem_ofList placed)).exact
  shallow := by
    have inner := membersDepth_le_iff.mpr fun pair placed => shallow pair (mem_of_mem_ofList placed)
    rw [Value.ofMembers, Value.depth]
    omega

theorem depth_strings (texts : List String) : (Value.strings texts).depth ≤ 1 := by
  rw [Value.strings, Value.depth, Nat.succ_le_succ_iff, itemsDepth_le_iff]
  simp [Value.depth]

theorem writable_strings (texts : List String) : Writable (.strings texts) := by
  apply @writable_array _ 0 (by decide)
  · simp [writable_string]
  · simp [Value.depth]

theorem depth_toJson (resource : ScriptResource) : resource.toJson.depth ≤ 2 := by
  rw [ScriptResource.toJson, Value.ofMembers, Value.depth, Nat.succ_le_succ_iff,
    membersDepth_le_iff]
  intro member placed
  exact resource.forall_members (·.depth ≤ 1) (by simp [Value.depth]) depth_strings member
    (mem_of_mem_ofList placed)

theorem writable_scripts (scripts : List ScriptResource) :
    Writable (.array (scripts.map ScriptResource.toJson)) := by
  apply @writable_array _ 2 (by decide)
  · rw [List.forall_mem_map]
    intro resource _
    apply @writable_ofMembers _ 1 (by decide)
    · exact resource.forall_members Writable writable_string writable_strings
    · exact resource.forall_members (·.depth ≤ 1) (by simp [Value.depth]) depth_strings
  · rw [List.forall_mem_map]
    exact fun resource _ => depth_toJson resource

end Notification

/-! ## What is understood -/

/-- The parameters that announce resources.  Null stands for a style that is not given; at
the end of the parameters, what is not given may be left out. -/
inductive PageResources.Announces (resources : PageResources) : List Value → Prop
  | whole :
      Announces resources
        [.strings resources.stylesheets, resources.style.elim .null .string,
          .array (resources.scripts.map ScriptResource.toJson)]
  | withoutScripts (noScripts : resources.scripts = []) :
      Announces resources
        [.strings resources.stylesheets, resources.style.elim .null .string]
  | stylesheetsOnly (noStyle : resources.style = none) (noScripts : resources.scripts = []) :
      Announces resources [.strings resources.stylesheets]

namespace PortalRequest

open Notification

variable {resources : PageResources} {params : List Value}

theorem writable_of_announces (announces : resources.Announces params) :
    ∀ param ∈ params, Writable param := by
  have style : Writable (resources.style.elim .null .string) := by
    cases resources.style with
    | none => exact writable_null
    | some style => exact writable_string style
  cases announces with
  | whole => simp [writable_strings, style, writable_scripts]
  | withoutScripts => simp [writable_strings, style]
  | stylesheetsOnly => simp [writable_strings]

theorem ofNotification_of_announces (announces : resources.Announces params) :
    ofNotification (.carrying Method.addPageResources params) = .ok (.addResources resources) := by
  obtain ⟨stylesheets, style, scripts⟩ := resources
  let carrying := Notification.carrying Method.addPageResources
  have listed : list string (.strings stylesheets) = .ok stylesheets :=
    list_string_eq_ok_iff.mpr rfl
  have decoded := list_map ScriptResource.decode_toJson scripts
  have first : ∀ rest, (carrying (.strings stylesheets :: rest)).optionalParam (list string) 0 =
      .ok (some stylesheets) := by
    exact fun _ => optionalParam_of_ok nofun listed
  have second : ∀ before rest,
      (carrying (before :: style.elim .null .string :: rest)).optionalParam string 1 =
        .ok style := by
    intro before rest
    cases style <;> rfl
  have third : ∀ before between,
      (carrying [before, between, .array (scripts.map ScriptResource.toJson)]).optionalParam
        (list ScriptResource.decode) 2 = .ok (some scripts) := by
    exact fun _ _ => optionalParam_of_ok nofun decoded
  change addResourcesOf (carrying params) = _
  rw [addResourcesOf]
  cases announces with
  | whole =>
      rw [first, second, third]
      rfl
  | withoutScripts noScripts =>
      cases noScripts
      rw [first, second]
      rfl
  | stylesheetsOnly noStyle noScripts =>
      cases noStyle
      cases noScripts
      rw [first]
      rfl

/-- What the portal says is what the page understands of the frame: resources, scripts with
any of their members among them, both layouts, and a call of a portlet's method with all
its parameters.  Layouts and parameters hold no floats and do not nest too deep. -/
theorem ofNotification_payloads :
    (∀ resources params, PageResources.Announces resources params →
      ofFrame (Notification.carrying Method.addPageResources params).frame >>= ofNotification =
        .ok (.addResources resources)) ∧
    (∀ layout : PageLayout, Writable layout.preview → Writable layout.tabs →
      ofFrame (Notification.carrying Method.lastPortalLayout
          [layout.preview, layout.tabs]).frame >>= ofNotification =
        .ok (.restoreLayout layout)) ∧
    ∀ call : PortletCall, Writable (.array call.params) →
      ofFrame (Notification.carrying Method.invokePortletMethod
          [.string call.portletClass, .string call.portlet.text, .string call.method,
            .array call.params]).frame >>= ofNotification =
        .ok (.callPortlet call) := by
  refine ⟨?resources, ?layout, ?call⟩
  case resources =>
    intro resources params announces
    rw [ofFrame_of_writable (writable_of_announces announces)]
    exact ofNotification_of_announces announces
  case layout =>
    intro layout preview tabs
    rw [ofFrame_of_writable (by simp [arguments, Notification.carrying, preview, tabs])]
    rfl
  case call =>
    intro call params
    rw [ofFrame_of_writable]
    · rfl
    · simp [arguments, Notification.carrying, writable_string, params]

/-- A script without any member and one with all of them, in texts that are escaped; the
stylesheets alone; layouts and a parameter that nest. -/
theorem ofNotification_payloads_escaped :
    let understood (method : String) (params : List Value) :=
      ofFrame (Notification.carrying method params).frame >>= ofNotification
    let resources : PageResources :=
      { stylesheets := ["/é.css", ""]
        scripts := [{ }, ⟨some "a\"\\b", some "\n\x01\x7f", ["x", "x"], [""]⟩] }
    let preview : Value := .array [.array [], .null]
    let tabs : Value := .object [("", .number (.integer Number.leastInteger)), ("tabs", .bool true)]
    let texts : List Value := [.string "Clock", .string "p\t1", .string ""]
    Writable preview ∧ Writable tabs ∧ Writable (.array [preview, tabs]) ∧
      understood Method.addPageResources
          [.strings resources.stylesheets, .null,
            .array (resources.scripts.map ScriptResource.toJson)] =
        .ok (.addResources resources) ∧
      understood Method.addPageResources [.strings resources.stylesheets] =
        .ok (.addResources { resources with scripts := [] }) ∧
      understood Method.lastPortalLayout [preview, tabs] = .ok (.restoreLayout ⟨preview, tabs⟩) ∧
      understood Method.invokePortletMethod (texts ++ [.array [preview, tabs]]) =
        .ok (.callPortlet ⟨"Clock", ⟨"p\t1"⟩, "", [preview, tabs]⟩) := by
  intro understood resources preview tabs texts
  have previewWritable : Writable preview := by
    refine ⟨by decide, ?_, by decide⟩
    simp [preview, Value.Exact, Value.parts, itemsParts, Value.isFloat]
  have tabsWritable : Writable tabs := by
    refine ⟨by decide, ?_, by decide⟩
    simp [tabs, Value.Exact, Value.parts, membersParts, Value.isFloat]
  have paramsWritable : Writable (.array [preview, tabs]) :=
    @writable_array _ 2 (by decide) (by simp [previewWritable, tabsWritable]) (by decide)
  obtain ⟨announced, restored, called⟩ := ofNotification_payloads
  exact ⟨previewWritable, tabsWritable, paramsWritable, announced resources _ .whole,
    announced { resources with scripts := [] } _ (.stylesheetsOnly rfl rfl),
    restored ⟨preview, tabs⟩ previewWritable tabsWritable, called ⟨_, ⟨_⟩, _, _⟩ paramsWritable⟩

end PortalRequest

end PageSession
