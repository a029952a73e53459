import EmbeddedScripts.Config.Read
import EmbeddedScripts.Proofs.WrittenConfigs

/-!
# Reading written configurations

`visitMembers` reads the values of the members of an object one by one.

* `readTexts_append`, `Draft.read_append`: the value of a setting is read as that value.
* `foldlM_visitMember?_put`, `visits_visitMembers`: a member gives its setting whatever others are
  given.
* `readMember_append`, `readMembers_append`: each member is read off a text on its own, and one of
  another name is passed over.
* `decodes_read`: so `read` reads the members off any text that writes them.
-/

namespace EmbeddedScripts.Config

open Json (Failure IsGap Spells Delimited skipSpace skipSpace_append skipSpace_cons skipSpace_gap
  skipColon_append)

/-! ## Values -/

theorem readText_quoted {s : String} {t : List Char} (h : Spells s.toList t) (expected : String)
    (rest : List Char) : readText expected ('"' :: (t ++ '"' :: rest)) = .ok (s, rest) := by
  rw [readText, skipSpace_cons (by decide)]
  dsimp only
  rw [if_pos rfl, Json.text_of_spells h, Except.map, String.ofList_toList]

theorem nextItem_first {text cs : List Char} (h : skipSpace text = '"' :: cs) :
    nextItem true text = .ok (some ('"' :: cs)) := by
  rw [nextItem, h]
  rfl

theorem nextItem_comma {gap : List Char} (hgap : IsGap gap) {text cs : List Char}
    (h : skipSpace text = '"' :: cs) :
    nextItem false (gap ++ ',' :: text) = .ok (some ('"' :: cs)) := by
  rw [nextItem, skipSpace_gap hgap (by decide)]
  simp [h]

theorem readTexts_eq (first : Bool) (text : List Char) :
    readTexts first text =
      match nextItem first text with
      | .error e => .error e
      | .ok none => (listEnd text).map ([], ·)
      | .ok (some next) =>
        (readText "a string" next).bind fun (s, rest) =>
          (readTexts false rest).map fun (ss, rest) => (s :: ss, rest) := by
  rw [readTexts.eq_def]
  split
  · rename_i heq
    rw [heq]
  · rename_i heq
    rw [heq]
  · rename_i next heq
    rw [heq]
    dsimp only
    cases readText "a string" next <;> rfl

theorem readTexts_end (first : Bool) {gap : List Char} (hgap : IsGap gap) (rest : List Char) :
    readTexts first (gap ++ ']' :: rest) = .ok ([], rest) := by
  have hspace : skipSpace (gap ++ ']' :: rest) = ']' :: rest := skipSpace_gap hgap (by decide) rest
  rw [readTexts_eq, nextItem, listEnd, hspace]
  rfl

theorem WritesTexts.skipSpace_append {ss : List String} {items : List Char}
    (h : WritesTexts ss items) (rest : List Char) :
    ∃ cs, skipSpace (items ++ rest) = '"' :: cs := by
  cases h with
  | last hbefore =>
    rw [List.append_assoc, List.cons_append]
    exact ⟨_, skipSpace_gap hbefore (by decide) _⟩
  | cons hbefore =>
    rw [List.append_assoc, List.cons_append]
    exact ⟨_, skipSpace_gap hbefore (by decide) _⟩

/-- The items of a list of strings are read one by one, from where the first of them is found on. -/
theorem readTexts_append {ss : List String} {items : List Char} (h : WritesTexts ss items)
    {first : Bool} {text : List Char} (rest : List Char)
    (hnext : nextItem first text = .ok (some (skipSpace (items ++ ']' :: rest)))) :
    readTexts first text = .ok (ss, rest) := by
  induction h generalizing first text with
  | @last s before t after hbefore ht hafter =>
    have hread := readText_quoted ht "a string" (after ++ ']' :: rest)
    rw [List.append_assoc, List.cons_append, List.append_assoc, List.cons_append,
      skipSpace_gap hbefore (by decide)] at hnext
    rw [readTexts_eq, hnext]
    simp only [hread, readTexts_end false hafter, Except.bind]
    rfl
  | @cons s before t after ss items hbefore ht hafter hitems ih =>
    have hread := readText_quoted ht "a string" (after ++ ',' :: (items ++ ']' :: rest))
    obtain ⟨cs, hcs⟩ := hitems.skipSpace_append (']' :: rest)
    have hcomma := nextItem_comma hafter hcs
    rw [← hcs] at hcomma
    rw [List.append_assoc, List.cons_append, List.append_assoc, List.cons_append,
      List.append_assoc, List.cons_append, skipSpace_gap hbefore (by decide)] at hnext
    rw [readTexts_eq, hnext]
    simp only [hread, ih hcomma, Except.bind]
    rfl

theorem readTypes_append {gap : List Char} (hgap : IsGap gap) (text : List Char) :
    readTypes (gap ++ '[' :: text) = readTexts true text := by
  rw [readTypes, skipSpace_gap hgap (by decide)]
  rfl

theorem readMode_append {gap : List Char} (hgap : IsGap gap) {mode : SourceMode} {t : List Char}
    (h : Spells (modeName mode).toList t) (rest : List Char) :
    readMode (gap ++ '"' :: (t ++ '"' :: rest)) = .ok (mode, rest) := by
  have hname : modeOf? (modeName mode) = some mode := by cases mode <;> rfl
  have hread := readText_quoted h "variant identifier" rest
  rw [readMode, skipSpace_gap hgap (by decide)]
  dsimp only
  rw [if_neg (by decide), if_pos rfl, readModeName, hread]
  simp only [bind, Except.bind, hname]
  rfl

theorem readBoolean_append {gap : List Char} (hgap : IsGap gap) (value : Bool)
    (rest : List Char) :
    readBoolean (gap ++ ((if value then "true" else "false").toList ++ rest)) =
      .ok (value, rest) := by
  cases value with
  | true =>
    show readBoolean (gap ++ 't' :: (['r', 'u', 'e'] ++ rest)) = _
    rw [readBoolean, skipSpace_gap hgap (by decide)]
    rfl
  | false =>
    show readBoolean (gap ++ 'f' :: (['a', 'l', 's', 'e'] ++ rest)) = _
    rw [readBoolean, skipSpace_gap hgap (by decide)]
    rfl

/-- Makes a setting known. -/
def Draft.put (d : Draft) : Setting → Draft
  | .scriptTypes types => { d with scriptTypes := some types }
  | .sourceMode mode => { d with sourceMode := some mode }
  | .parallel value => { d with parallel := some value }

/-- **The value of a setting is read as that value.** -/
theorem Draft.read_append {s : Setting} {value : List Char} (h : WritesValue s value)
    {gap : List Char} (hgap : IsGap gap) (d : Draft) (rest : List Char) :
    d.read s.field (gap ++ (value ++ rest)) = .ok (d.put s, rest) := by
  cases h with
  | noTypes h =>
    rw [List.cons_append, List.append_assoc, List.singleton_append, Setting.field, Draft.read,
      readTypes_append hgap, readTexts_end true h]
    rfl
  | @types ss items h =>
    obtain ⟨cs, hcs⟩ := h.skipSpace_append (']' :: rest)
    have hfirst := nextItem_first hcs
    rw [← hcs] at hfirst
    rw [List.cons_append, List.append_assoc, List.singleton_append, Setting.field, Draft.read,
      readTypes_append hgap, readTexts_append h rest hfirst]
    rfl
  | mode h =>
    rw [List.cons_append, List.append_assoc, List.singleton_append, Setting.field, Draft.read,
      readMode_append hgap h]
    rfl
  | parallel value =>
    rw [Setting.field, Draft.read, readBoolean_append hgap]
    rfl

/-! ## Visiting members -/

/-- Reads the value of a member. -/
def visitMember? (d : Draft) (m : Member) : Option Draft :=
  match Field.ofName? m.name with
  | none => some d
  | some f =>
    if d.has f then none
    else
      match d.read f m.value with
      | .ok (d, []) => some d
      | _ => none

/-- Reads the values of members one by one. -/
def visitMembers : Visitor := fun ms => (ms.foldlM visitMember? {}).map Draft.finish

theorem ofName?_name (f : Field) : Field.ofName? f.name = some f := by
  cases f <;> decide

theorem ofName?_eq_none {n : String} (h : ∀ f : Field, f.name ≠ n) : Field.ofName? n = none := by
  rw [Field.ofName?, List.find?_eq_none]
  intro f _
  simpa using h f

theorem name_of_ofName? {n : String} {f : Field} (h : Field.ofName? n = some f) : f.name = n := by
  have hname := List.find?_some h
  exact eq_of_beq hname

theorem Draft.has_put (d : Draft) (s : Setting) (f : Field) :
    (d.put s).has f = (decide (s.field = f) || d.has f) := by
  cases s <;> cases f <;> rfl

theorem Draft.finish_put (d : Draft) (s : Setting) : (d.put s).finish = d.finish.put s := by
  cases s <;> rfl

/-- What is known already does not change how another member is read. -/
theorem Draft.read_put {s : Setting} {f : Field} (h : s.field ≠ f) (d : Draft) (text : List Char) :
    (d.put s).read f text = (d.read f text).map fun (e, rest) => (e.put s, rest) := by
  cases f with
  | scriptTypes =>
    rw [read, read]
    cases readTypes text <;> cases s <;> first | rfl | exact absurd rfl h
  | sourceMode =>
    rw [read, read]
    cases readMode text <;> cases s <;> first | rfl | exact absurd rfl h
  | parallel =>
    rw [read, read]
    cases readBoolean text <;> cases s <;> first | rfl | exact absurd rfl h

theorem visitMember?_setting {m : Member} {s : Setting} (h : Gives m (some s)) (d : Draft) :
    visitMember? d m = if d.has s.field then none else some (d.put s) := by
  cases h with
  | @setting _ value hvalue =>
    have hread := Draft.read_append hvalue (by decide : IsGap []) d []
    rw [List.append_nil, List.nil_append] at hread
    simp only [visitMember?, ofName?_name, hread]

theorem visitMember?_other {m : Member} (h : Gives m none) (d : Draft) :
    visitMember? d m = some d := by
  cases h with
  | other hname => simp only [visitMember?, ofName?_eq_none hname]

theorem visitMember?_put {s : Setting} {m : Member} (h : s.field.name ≠ m.name) (d : Draft) :
    visitMember? (d.put s) m = (visitMember? d m).map (·.put s) := by
  unfold visitMember?
  cases hname : Field.ofName? m.name with
  | none => rfl
  | some f =>
    have hf : s.field ≠ f := by
      rintro rfl
      exact h (name_of_ofName? hname)
    simp only [Draft.has_put, decide_eq_false hf, Bool.false_or, Draft.read_put hf]
    split
    · rfl
    · rcases d.read f m.value with _ | ⟨e, _ | _⟩ <;> rfl

theorem foldlM_visitMember?_put {s : Setting} {ms : List Member}
    (h : s.field.name ∉ ms.map Member.name) (d : Draft) :
    ms.foldlM visitMember? (d.put s) = (ms.foldlM visitMember? d).map (·.put s) := by
  induction ms generalizing d with
  | nil => rfl
  | cons m ms ih =>
    rw [List.map_cons, List.mem_cons, not_or] at h
    rw [List.foldlM_cons, List.foldlM_cons, visitMember?_put h.1]
    cases visitMember? d m with
    | none => rfl
    | some e => exact ih h.2 e

/-- **Members give settings by their names.** -/
theorem visits_visitMembers : Visits visitMembers where
  missing := rfl
  field {m s ms} hm hnew := by
    have hname : m.name = s.field.name := by cases hm; rfl
    have hfirst : visitMember? {} m = some (Draft.put {} s) := by
      rw [visitMember?_setting hm, if_neg (by cases s <;> exact Bool.false_ne_true)]
    rw [hname] at hnew
    rw [visitMembers, List.foldlM_cons, hfirst, Option.bind_eq_bind, Option.bind_some,
      foldlM_visitMember?_put hnew, Option.map_map, visitMembers, Option.map_map]
    exact congrArg (Option.map · _) (funext fun d => d.finish_put s)
  unknown {m ms} hm := by
    rw [visitMembers, List.foldlM_cons, visitMember?_other hm]
    rfl

/-! ## Reading members -/

theorem nextMember_first {text cs : List Char} (h : skipSpace text = '"' :: cs) :
    nextMember true text = .ok (some cs) := by
  rw [nextMember, h]
  rfl

theorem nextMember_comma {gap : List Char} (hgap : IsGap gap) {text cs : List Char}
    (h : skipSpace text = '"' :: cs) : nextMember false (gap ++ ',' :: text) = .ok (some cs) := by
  rw [nextMember, skipSpace_gap hgap (by decide)]
  simp [h, nameStart, Except.map]

theorem readMembers_eq (first : Bool) (d : Draft) (text : List Char) :
    readMembers first d text =
      match nextMember first text with
      | .error e => .error e
      | .ok none => .ok (d, objectEnd text)
      | .ok (some next) => (readMember d next).bind fun (d, rest) => readMembers false d rest := by
  rw [readMembers.eq_def]
  split
  · rename_i heq
    rw [heq]
  · rename_i heq
    rw [heq]
  · rename_i next heq
    rw [heq]
    dsimp only
    cases readMember d next <;> rfl

theorem readMembers_end (first : Bool) (d : Draft) {gap : List Char} (hgap : IsGap gap)
    (rest : List Char) : readMembers first d (gap ++ '\x7d' :: rest) = .ok (d, rest) := by
  have hspace : skipSpace (gap ++ '\x7d' :: rest) = '\x7d' :: rest :=
    skipSpace_gap hgap (by decide) rest
  rw [readMembers_eq, nextMember, objectEnd, hspace]
  rfl

/-- **A member is read** from after the opening quote of its name on, as it is visited. -/
theorem readMember_append {m : Member} {given : Option Setting} (hm : Gives m given)
    {member : List Char} (h : WritesMember m member) {d d' : Draft}
    (hvisit : visitMember? d m = some d') {rest : List Char} (hrest : Delimited rest) :
    ∃ cs, member = '"' :: cs ∧ readMember d (cs ++ rest) = .ok (d', rest) := by
  obtain ⟨hname, hmiddle, hgap⟩ := h
  refine ⟨_, rfl, ?_⟩
  simp only [List.append_assoc, List.cons_append]
  rw [readMember, Json.text_of_spells hname]
  simp only [bind, Except.bind, String.ofList_toList]
  cases given with
  | some s =>
    rw [visitMember?_setting hm] at hvisit
    split at hvisit
    · cases hvisit
    · rename_i hnew
      cases hvisit
      cases hm with
      | setting hvalue =>
        simp only [ofName?_name, if_neg hnew, skipColon_append hmiddle]
        exact Draft.read_append hvalue hgap d rest
  | none =>
    rw [visitMember?_other hm] at hvisit
    cases hvisit
    cases hm with
    | other hother hvalue =>
      simp only [ofName?_eq_none hother, skipColon_append hmiddle,
        Json.skipValue_append hgap hvalue hrest]
      rfl

theorem WritesMembers.skipSpace_append {ms : List Member} {members : List Char}
    (h : WritesMembers ms members) (rest : List Char) :
    ∃ cs, skipSpace (members ++ rest) = '"' :: cs := by
  have hgap : ∀ {before more : List Char}, IsGap before → ∀ {m : Member} {member},
      WritesMember m member → ∃ cs, skipSpace (before ++ (member ++ more)) = '"' :: cs := by
    rintro before more hbefore m member ⟨-⟩
    exact ⟨_, skipSpace_gap hbefore (by decide) _⟩
  cases h with
  | last hbefore hmember =>
    rw [List.append_assoc, List.append_assoc]
    exact hgap hbefore hmember
  | cons hbefore hmember =>
    rw [List.append_assoc, List.append_assoc]
    exact hgap hbefore hmember

/-- **The members of an object are read one by one** as they are visited, from where the first of them
is found on. -/
theorem readMembers_append {ms : List Member} {members : List Char} (h : WritesMembers ms members)
    (hms : ∀ m ∈ ms, ∃ given, Gives m given) {d d' : Draft}
    (hvisit : ms.foldlM visitMember? d = some d') {first : Bool} {text cs rest : List Char}
    (hcs : skipSpace (members ++ '\x7d' :: rest) = '"' :: cs)
    (hnext : nextMember first text = .ok (some cs)) :
    readMembers first d text = .ok (d', rest) := by
  induction h generalizing d first text cs with
  | @last m before member after hbefore hmember hafter =>
    have hend : Delimited (after ++ '\x7d' :: rest) :=
      Json.delimited_append hafter (.inr (.inr rfl)) rest
    obtain ⟨given, hm⟩ := hms m List.mem_cons_self
    simp only [List.foldlM_cons, List.foldlM_nil, bind_pure] at hvisit
    obtain ⟨ms, rfl, hread⟩ := readMember_append hm hmember hvisit hend
    simp only [List.append_assoc, List.cons_append] at hcs
    rw [skipSpace_gap hbefore (by decide)] at hcs
    cases hcs
    rw [readMembers_eq, hnext]
    simp only [hread, readMembers_end false _ hafter, Except.bind]
  | @cons m ms before member after members hbefore hmember hafter hmembers ih =>
    have hend : Delimited (after ++ ',' :: (members ++ '\x7d' :: rest)) :=
      Json.delimited_append hafter (.inl rfl) _
    obtain ⟨given, hm⟩ := hms m List.mem_cons_self
    rw [List.foldlM_cons, Option.bind_eq_bind, Option.bind_eq_some_iff] at hvisit
    obtain ⟨e, hfirst, hvisit⟩ := hvisit
    obtain ⟨mcs, rfl, hread⟩ := readMember_append hm hmember hfirst hend
    simp only [List.append_assoc, List.cons_append] at hcs
    rw [skipSpace_gap hbefore (by decide)] at hcs
    cases hcs
    obtain ⟨more, hmore⟩ := hmembers.skipSpace_append ('\x7d' :: rest)
    have hrest := ih (fun m' hm' => hms m' (List.mem_cons_of_mem _ hm')) hvisit hmore
      (nextMember_comma hafter hmore)
    rw [readMembers_eq, hnext]
    simp only [hread, hrest, Except.bind]

/-! ## Objects -/

theorem readDraft_append {gap : List Char} (hgap : IsGap gap) (text : List Char) :
    readDraft (gap ++ '\x7b' :: text) = readMembers true {} text := by
  rw [readDraft, skipSpace_gap hgap (by decide)]
  rfl

theorem skipSpace_eq_nil {gap : List Char} (h : IsGap gap) : skipSpace gap = [] := by
  rw [← List.append_nil gap, skipSpace_append h]
  rfl

theorem read_of_readDraft {json : String} {d : Draft} {gap : List Char}
    (h : readDraft json.toList = .ok (d, gap)) (hgap : IsGap gap) : read json = .ok d.finish := by
  rw [read, h]
  simp only [bind, Except.bind, skipSpace_eq_nil hgap]
  rfl

/-- **The members of an object are read off its text**, however it is written. -/
theorem decodes_read : Decodes read visitMembers := by
  intro ms json c h hms hvisit
  obtain ⟨d, hd, rfl⟩ := Option.map_eq_some_iff.1 hvisit
  generalize hjson : json.toList = text at h
  cases h with
  | @empty before gap after hbefore hgap hafter =>
    cases hd
    refine read_of_readDraft ?_ hafter
    rw [hjson, readDraft_append hbefore, readMembers_end true {} hgap]
  | @members ms before members after hbefore hmembers hafter =>
    obtain ⟨cs, hcs⟩ := hmembers.skipSpace_append ('\x7d' :: after)
    refine read_of_readDraft ?_ hafter
    rw [hjson, readDraft_append hbefore, readMembers_append hmembers hms hd hcs (nextMember_first hcs)]

end EmbeddedScripts.Config
