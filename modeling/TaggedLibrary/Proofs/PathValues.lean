import TaggedLibrary.Proofs.HomeSteps
import TaggedLibrary.Proofs.LoadedSettings
import TaggedLibrary.Proofs.NumberTexts
/-!
A path that a variable sets. The settings load whatever the text is, but it is first taken for a
truth value or a number where it reads as one, and the path is made of the text of that.
-/

namespace TaggedLibrary

namespace Environment

open Settings (textOf)

/-- A text from which the value that it is taken for has the same text. -/
def AsWritten (s : String) : Prop :=
  match scalarOf s with
  | .text _ => True
  | .bool _ => s = "true" ∨ s = "false"
  | .int _ => Numeral.IsPlainInt s
  | .float x => x.toText = s
  | .nil => False

/-- Characters like a slash keep a text as it was written. -/
theorem asWritten_of_mem {c : Char} (hascii : c.toNat < 128)
    (hc : Numeral.isNumberChar c = false) {s : String} (h : c ∈ s.toList) : AsWritten s := by
  rw [AsWritten, scalarOf_of_mem hascii hc h]
  trivial

/-- A path can be made of whatever a value is taken for. -/
theorem exists_textOf (key : String) (o : Option Origin) (s : String) : ∃ text,
    textOf key (.scalar o (scalarOf s)) = .ok text ∧ (text = s ↔ AsWritten s) ∧
      (text = s ∨ '~' ∉ text.toList ∧ '~' ∉ s.toList) := by
  have hs : scalarOf s ≠ .text s → '~' ∉ s.toList := fun hne hm =>
    hne (scalarOf_of_mem (c := '~') (by decide) (by decide) hm)
  have hforeign : ∀ text : String, (∀ c ∈ text.toList, Numeral.isNumberChar c = true) →
      '~' ∉ text.toList := by
    intro text htext hm
    exact absurd (htext _ hm) (by decide)
  -- a value that is no text has no `~` in it, nor has the text of that value
  rw [AsWritten]
  rcases scalarOf_cases s with ⟨hl, h⟩ | ⟨hl, h⟩ | ⟨n, hn, h⟩ | ⟨x, hx, h⟩ | h
  all_goals rw [h] at hs ⊢
  · refine ⟨"true", rfl, ⟨fun he => Or.inl he.symm, ?_⟩, Or.inr ⟨by decide, hs nofun⟩⟩
    rintro (rfl | rfl)
    · rfl
    · exact absurd hl (by decide)
  · refine ⟨"false", rfl, ⟨fun he => Or.inr he.symm, ?_⟩, Or.inr ⟨by decide, hs nofun⟩⟩
    rintro (rfl | rfl)
    · exact absurd hl (by decide)
    · rfl
  · refine ⟨_, rfl, Numeral.intText_eq_iff hn, Or.inr ⟨hforeign _ fun c hc => ?_, hs nofun⟩⟩
    exact Numeral.isNumberChar_intText hc
  · exact ⟨_, rfl, Iff.rfl, Or.inr ⟨hforeign _ fun c => Binary64.isNumberChar_toText, hs nofun⟩⟩
  · exact ⟨s, rfl, iff_of_true rfl trivial, Or.inl rfl⟩

end Environment

namespace Path

/-- Only a text that begins with `~` has the home directory put in. -/
theorem expandHome_of_not_mem {s : String} (h : '~' ∉ s.toList) (home : Option Bytes) :
    (ofString s).expandHome home = ofString s := by
  apply expandHome_of_head?
  intro hfirst
  obtain ⟨rest, hsteps⟩ := List.head?_eq_some_iff.mp hfirst
  obtain ⟨ss, hsegments, _⟩ := segments_of_components hsteps
  have hm : tilde ∈ Utf8.encode s := List.mem_of_mem_head? (head?_of_segments hsegments)
  exact h (Utf8.mem_of_mem_encode hm (by decide))

theorem ofString_injective {s t : String} (h : ofString s = ofString t) : s = t :=
  Utf8.encode_injective (Path.mk.inj h)

end Path

namespace Environment

variable {env : Environment} {v : SettingVariable} {s : String}

/-- One variable sets something, and it has this text. -/
structure SetsOnly (env : Environment) (v : SettingVariable) (s : String) : Prop where
  names : (env.map Prod.fst).Nodup
  value : env.value? v.name = some (Utf8.encode s)
  only : ∀ e ∈ env, settingName? e.1 ≠ none → e.1 = v.name

theorem SetsOnly.settings_eq (h : env.SetsOnly v s) :
    env.settings = .ok [(v.key, .scalar (some .environment) (scalarOf s))] := by
  induction env with
  | nil => cases h.value
  | cons e rest ih =>
    obtain ⟨name, b⟩ := e
    obtain ⟨hnew, hnames⟩ := List.nodup_cons.mp h.names
    have honly : ∀ e ∈ rest, settingName? e.1 ≠ none → e.1 = v.name := fun e he =>
      h.only e (List.mem_cons_of_mem _ he)
    have hvalue := h.value
    rw [value?_cons] at hvalue
    by_cases hv : v.name = name
    · subst hv
      rw [if_pos rfl] at hvalue
      cases hvalue
      have hrest : settings rest = .ok [] := by
        refine settings_eq_nil fun e he => ?_
        by_contra hsets
        have hm := List.mem_map_of_mem (f := Prod.fst) he
        rw [honly e he hsets] at hm
        exact hnew hm
      exact settings_cons SettingVariable.setting?_name hrest
    · rw [if_neg hv] at hvalue
      have hfirst : settingName? name = none := by
        by_contra hsets
        exact hv (h.only _ List.mem_cons_self hsets).symm
      exact settings_cons (setting?_eq_none hfirst) (ih ⟨hnames, hvalue, honly⟩)

end Environment

namespace Settings

variable {env : Environment} {t : FileTree} {v : SettingVariable} {s : String}

/-- No settings file is there, neither under its name nor under one that would be tried in its
place. -/
def NoFile (env : Environment) (t : FileTree) : Prop :=
  ∀ p, env.configPath? = some p →
    t.isFile p = false ∧ ∀ q ∈ ConfigFile.siblings p, t.isFile q.1 = false

theorem NoFile.holds (h : NoFile env t) : FileHolds env t [] := by
  cases hp : env.configPath? with
  | none => exact .unnamed hp
  | some p => exact .absent hp (h p hp).1 (h p hp).2

/-- Other settings, with this path for one of the two. -/
def withPath (v : SettingVariable) (p : Path) (s : Settings) : Settings :=
  match v with
  | .source => { s with paths := { s.paths with source := p } }
  | .destination => { s with paths := { s.paths with destination := p } }
  | .enabled => s

theorem pathsOf_source (x : Setting) : pathsOf (.table none [("source", x)]) =
    (pathOf SettingVariable.source.key x).map fun p => { default.paths with source := p } := rfl

theorem pathsOf_destination (x : Setting) : pathsOf (.table none [("destination", x)]) =
    (pathOf SettingVariable.destination.key x).map fun p =>
      { default.paths with destination := p } := rfl

/-- Where one path is set, the rest are the defaults. -/
theorem ofEntries_single {x : Setting} {p : Path} (hv : v ≠ .enabled)
    (hx : pathOf v.key x = .ok p) :
    ofEntries [(v.group, .table none [(v.member, x)])] = .ok (default.withPath v p) := by
  have hpaths : ∀ group paths, pathsOf (.table none group) = .ok paths →
      ofEntries [("paths", .table none group)] = .ok { default with paths := paths } := by
    intro group paths h
    have hlookup : ofEntries [("paths", .table none group)] = do
        let paths ← pathsOf (.table none group)
        return { default with paths := paths } := rfl
    rw [hlookup, h]
    rfl
  cases v with
  | enabled => exact absurd rfl hv
  | source => exact hpaths _ _ (by rw [SettingVariable.member, pathsOf_source, hx]; rfl)
  | destination => exact hpaths _ _ (by rw [SettingVariable.member, pathsOf_destination, hx]; rfl)

/-- A value laid over nothing at all makes a tree of its own. -/
theorem layer_single (o : Option Origin) (x : Scalar) :
    ((Setting.table none []).layer [(v.key, .scalar o x)]).asTable.2 =
      [(v.group, .table none [(v.member, .scalar o x)])] := by
  have hlayer : (Setting.table none []).layer [(v.key, .scalar o x)] =
      (KeyPath.ofString v.key).put (.scalar o x) (.table none []) := rfl
  rw [hlayer, SettingVariable.ofString_key, KeyPath.put]
  simp only [KeyPath.alterBelow, Setting.alterEntry, Setting.asTable, Setting.alter,
    Setting.missing, Setting.merge]

def musicEnvironment : Environment :=
  [("HOME", Utf8.encode "/h"), ("SAMPLE_MUSIC__PATHS__DESTINATION", Utf8.encode "/tmp/Music")]

theorem setsOnly_musicEnvironment : musicEnvironment.SetsOnly .destination "/tmp/Music" where
  names := by decide
  value := rfl
  only := by
    intro e he hsets
    simp only [musicEnvironment, List.mem_cons, List.not_mem_nil, or_false] at he
    rcases he with rfl | rfl
    · exact absurd (by decide) hsets
    · rfl

def numberEnvironment : Environment :=
  [("SAMPLE_MUSIC__PATHS__DESTINATION", Utf8.encode "007")]

end Settings

end TaggedLibrary
