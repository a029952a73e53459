import EmbeddedScripts.Proofs.ReadConfigs
import Mathlib.Data.List.Forall2

/-!
# Configurations are as they are written

* `setting_foldr_put_of_mem`, `setting_foldr_put_of_not_mem`: settings put into a configuration one by
  one are its settings, and the others stay.
* `Visits.visit_eq`: the members of an object give the usual configuration with their settings put into
  it, whatever their order and whatever else stands between them.
* `validated_of_usable`, `validated_of_not_usable`: a configuration is refused if and only if it is of
  no use.
* `fromJson_written`: so a configuration has the settings that are given and is the usual one
  otherwise, unless it is refused.
-/

namespace EmbeddedScripts.Config

open Json (IsGap Spells)

/-! ## Settings -/

theorem setting_foldr_put_of_not_mem {settings : List Setting} {f : Field}
    (h : f ∉ settings.map Setting.field) (c : Config) :
    (settings.foldr (fun s c => c.put s) c).setting f = c.setting f := by
  induction settings with
  | nil => rfl
  | cons s settings ih =>
    rw [List.map_cons, List.mem_cons, not_or] at h
    rw [List.foldr_cons, setting_put, if_neg (Ne.symm h.1), ih h.2]

theorem setting_foldr_put_of_mem {settings : List Setting}
    (hnodup : (settings.map Setting.field).Nodup) {s : Setting} (hs : s ∈ settings) (c : Config) :
    (settings.foldr (fun s c => c.put s) c).setting s.field = s := by
  induction settings with
  | nil => cases hs
  | cons t settings ih =>
    rw [List.map_cons, List.nodup_cons] at hnodup
    rw [List.foldr_cons, setting_put]
    rcases List.mem_cons.1 hs with rfl | hs
    · rw [if_pos rfl]
    · have hne : t.field ≠ s.field := fun heq => hnodup.1 (heq ▸ List.mem_map_of_mem hs)
      rw [if_neg hne, ih hnodup.2 hs]

/-! ## Members -/

/-- The members that are named like a setting are those that give it. -/
theorem mem_fields_of_mem_names {ms : List Member} {given : List (Option Setting)}
    (h : List.Forall₂ Gives ms given) {f : Field} (hf : f.name ∈ ms.map Member.name) :
    f ∈ given.reduceOption.map Setting.field := by
  induction h with
  | nil => cases hf
  | cons hm _ ih =>
    rw [List.map_cons, List.mem_cons] at hf
    cases hm with
    | setting =>
      rw [List.reduceOption_cons_of_some, List.map_cons, List.mem_cons]
      exact hf.imp Field.name_injective ih
    | other hname =>
      rw [List.reduceOption_cons_of_none]
      exact ih (hf.resolve_left (hname f))

/-- **The members of an object** give the usual configuration with their settings put into it. -/
theorem Visits.visit_eq {visit : Visitor} (hvisit : Visits visit) {ms : List Member}
    {given : List (Option Setting)} (h : List.Forall₂ Gives ms given)
    (hnodup : (given.reduceOption.map Setting.field).Nodup) :
    visit ms = some (given.reduceOption.foldr (fun s c => c.put s) {}) := by
  induction h with
  | nil => exact hvisit.missing
  | @cons m g ms given hm hms ih =>
    cases g with
    | none => rw [hvisit.unknown hm, List.reduceOption_cons_of_none, ih hnodup]
    | some s =>
      have hname : m.name = s.field.name := by cases hm; rfl
      rw [List.reduceOption_cons_of_some, List.map_cons, List.nodup_cons] at hnodup
      have hnew : m.name ∉ ms.map Member.name := fun hmem =>
        hnodup.1 (mem_fields_of_mem_names hms (hname ▸ hmem))
      rw [hvisit.field hm hnew, ih hnodup.2, List.reduceOption_cons_of_some]
      rfl

/-! ## Use -/

/-- The configuration is of use: it accepts some type, and none of nothing but blanks. -/
def Usable (c : Config) : Prop :=
  c.scriptTypes ≠ [] ∧ ∀ t ∈ c.scriptTypes, ∃ ch ∈ t.toList, Text.isBlank ch = false

theorem isBlankText_eq_false_iff {t : String} :
    Text.isBlankText t = false ↔ ∃ ch ∈ t.toList, Text.isBlank ch = false := by
  simp [Text.isBlankText]

theorem usable_iff (c : Config) :
    c.Usable ↔ c.scriptTypes.isEmpty = false ∧ c.scriptTypes.any Text.isBlankText = false := by
  simp only [Usable, List.any_eq_false, Bool.not_eq_true, isBlankText_eq_false_iff,
    List.isEmpty_eq_false_iff]

theorem validated_of_usable {c : Config} (h : c.Usable) : c.validated = .ok c := by
  obtain ⟨hsome, hblank⟩ := c.usable_iff.1 h
  rw [validated, flaw?, hsome, hblank]
  rfl

theorem validated_of_not_usable {c : Config} (h : ¬ c.Usable) :
    c.validated = .error (.invalid (if c.scriptTypes = [] then .noTypes else .blankType)) := by
  rw [usable_iff, not_and, Bool.not_eq_false] at h
  by_cases hnone : c.scriptTypes = []
  · rw [validated, flaw?, if_pos (List.isEmpty_iff.2 hnone), if_pos hnone]
  · have hsome : c.scriptTypes.isEmpty = false := List.isEmpty_eq_false_iff.2 hnone
    rw [validated, flaw?, hsome, h hsome, if_neg hnone]
    rfl

/-! ## Configurations -/

/-- **Configurations are as they are written**: an object that gives each setting at most once,
whatever else it has, stands for the configuration with these settings that is the usual one
otherwise. It is refused if that accepts no type, or one of nothing but blanks. -/
theorem fromJson_written {decode : Decoder} {visit : Visitor} (hvisit : Visits visit)
    (hdecode : Decodes decode visit) {ms : List Member} {json : String}
    (h : WritesObject ms json.toList) {given : List (Option Setting)}
    (hgiven : List.Forall₂ Gives ms given)
    (hnodup : (given.reduceOption.map Setting.field).Nodup) :
    ∃ c : Config, (∀ s, some s ∈ given → c.setting s.field = s) ∧
      (∀ f, f ∉ given.reduceOption.map Setting.field → c.setting f = setting {} f) ∧
      (c.Usable → fromJson decode json = .ok c) ∧
      (¬ c.Usable → fromJson decode json =
        .error (.invalid (if c.scriptTypes = [] then .noTypes else .blankType))) := by
  have hms : ∀ m ∈ ms, ∃ g, Gives m g := by
    intro m hm
    obtain ⟨i, hi, rfl⟩ := List.mem_iff_getElem.1 hm
    exact ⟨_, hgiven.get hi (hgiven.length_eq ▸ hi)⟩
  have hread : fromJson decode json =
      validated (given.reduceOption.foldr (fun s c => c.put s) {}) := by
    rw [fromJson, hdecode ms json _ h hms (hvisit.visit_eq hgiven hnodup)]
  refine ⟨given.reduceOption.foldr (fun s c => c.put s) {}, ?_,
    fun f hf => setting_foldr_put_of_not_mem hf {}, ?_, ?_⟩
  · intro s hs
    exact setting_foldr_put_of_mem hnodup (List.reduceOption_mem_iff.2 hs) {}
  · intro huse
    rw [hread, validated_of_usable huse]
  · intro huse
    rw [hread, validated_of_not_usable huse]

/-- Escapes in names and strings, members in another order, and one of another name that holds what
looks like a setting. -/
theorem fromJson_written_reordered :
    let json := " \x7b\"x\" : [-1.5e+3,\x7b\"parallel\":\"\\ud800\"\x7d]," ++
      "\"p\\u0061rallel\":true ,\n\"scriptTypes\":[\"\\ud83d\\ude00\", \"b\"]\x7d"
    let ms : List Member :=
      [⟨"x", "[-1.5e+3,\x7b\"parallel\":\"\\ud800\"\x7d]".toList⟩, ⟨"parallel", "true".toList⟩,
        ⟨"scriptTypes", "[\"\\ud83d\\ude00\", \"b\"]".toList⟩]
    let given : List (Option Setting) :=
      [none, some (.parallel true), some (.scriptTypes ["😀", "b"])]
    Visits visitMembers ∧ Decodes read visitMembers ∧ WritesObject ms json.toList ∧
      List.Forall₂ Gives ms given ∧ (given.reduceOption.map Setting.field).Nodup ∧
      fromJson read json = .ok { scriptTypes := ["😀", "b"], parallel := true } := by
  intro json ms given
  have hnone : IsGap [] := by decide
  have hspace : IsGap [' '] := by decide
  have hline : IsGap ['\n'] := by decide
  have hgiven : List.Forall₂ Gives ms given := by
    have hnumber : Json.IsScalar ('-' :: (['1'] ++ ('.' :: ['5'] ++ 'e' :: (['+'] ++ ['3'])))) :=
      .negative (.mk (.digits (by decide) (by decide)) (.digits (by decide))
        (.digits (.inl rfl) (.inr (.inl rfl)) (by decide)))
    have hhalf : Json.IsString ('\\' :: 'u' :: (['d', '8', '0', '0'] ++ [])) :=
      .code (.mk (i := 13) (j := 8) (k := 0) (l := 0) rfl rfl rfl rfl) .nil
    have hname : Json.IsString "parallel".toList := (Json.spells_self (by decide)).isString
    have hobject : Json.WellFormed .value _ :=
      .filled .object (.last (.member hnone hname hnone hnone) (.scalar (.string hhalf)) hnone)
    have hlist : Json.WellFormed .value _ :=
      .filled .list (.cons (.item hnone) (.scalar hnumber) hnone (.last (.item hnone) hobject hnone))
    have hface : Json.SpellsChar '😀' ('\\' :: 'u' ::
        (['d', '8', '3', 'd'] ++ '\\' :: 'u' :: ['d', 'e', '0', '0'])) :=
      .pair (n := 0xF600) rfl (.mk (i := 13) (j := 8) (k := 3) (l := 13) rfl rfl rfl rfl)
        (.mk (i := 13) (j := 14) (k := 0) (l := 0) rfl rfl rfl rfl)
    have htypes : WritesValue (.scriptTypes ["😀", "b"]) _ :=
      .types (.cons (s := "😀") hnone (.cons hface .nil) hnone
        (.last (s := "b") hspace (Json.spells_self (by decide)) hnone))
    have hx : ∀ f : Field, f.name ≠ "x" := by rintro (_ | _ | _) <;> decide
    exact .cons (.other hx hlist) (.cons (.setting (.parallel true)) (.cons (.setting htypes) .nil))
  have hwritten : WritesObject ms json.toList := by
    have ha : Json.SpellsChar 'a' ('\\' :: 'u' :: ['0', '0', '6', '1']) :=
      .code (.mk (i := 0) (j := 0) (k := 6) (l := 1) rfl rfl rfl rfl)
    have hrallel : Spells ['r', 'a', 'l', 'l', 'e', 'l'] ['r', 'a', 'l', 'l', 'e', 'l'] :=
      Json.spells_self (by decide)
    have hname : Spells "parallel".toList _ :=
      .cons (c := 'p') (.plain (by decide)) (.cons (c := 'a') ha hrallel)
    have hmembers : WritesMembers ms _ :=
      .cons hnone (.mk (Json.spells_self (by decide)) hspace hspace) hnone
        (.cons hnone (.mk hname hnone hnone) hspace
          (.last hline (.mk (Json.spells_self (by decide)) hnone hnone) hnone))
    -- the text put together from its parts is the one above
    convert WritesObject.members hspace hmembers hnone using 1
    decide +kernel
  have hnodup : (given.reduceOption.map Setting.field).Nodup := by decide
  obtain ⟨c, hset, hother, huse, -⟩ :=
    fromJson_written visits_visitMembers decodes_read hwritten hgiven hnodup
  have hc : c = { scriptTypes := ["😀", "b"], parallel := true } := by
    have htype := hset (.scriptTypes ["😀", "b"]) (by simp [given])
    have hparallel := hset (.parallel true) (by simp [given])
    have hmode := hother .sourceMode (by decide)
    cases c
    simp_all [setting, Setting.field]
  refine ⟨visits_visitMembers, decodes_read, hwritten, hgiven, hnodup, ?_⟩
  rw [huse ((usable_iff c).2 ?_), hc]
  rw [hc]
  decide

end EmbeddedScripts.Config
