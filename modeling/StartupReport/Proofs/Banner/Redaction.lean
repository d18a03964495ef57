/-
StartupReport/Proofs/Banner/Redaction.lean

Sensitive arguments leave no trace in a banner.

An argument mentions a key if a stretch of it is the key up to the case of ASCII
letters.  Lower case is a matter of whole texts: characters may grow, shrink
into ASCII or depend on their neighbours.  But a stretch of ASCII is lowered
letter by letter wherever it stands, so a key of ASCII that is mentioned is
found (`occursIn_lower_of_mention`), and the argument is covered
(`shownArgument_of_mentions`).

So two runs whose arguments differ only where both mention a key show the same
banner: the same lines or the same fault, after the same events
(`lines_eq_of_covered`).
-/
import Mathlib.Data.List.Forall2
import StartupReport.Banner.Report
import StartupReport.Proofs.BareHost

namespace StartupReport.Banner

open Text (lower occursIn occursIn_iff)

/-! ### Keys that are mentioned -/

/-- One of the keys occurs in a text up to the case of ASCII letters. -/
def Mentions (keys : List String) (text : String) : Prop :=
  ∃ key ∈ keys, ∃ part, part <:+: text.toList ∧
    part.map Char.toLower = key.toList.map Char.toLower

/-- Keys of ASCII characters. -/
def AsciiKeys (keys : List String) : Prop := ∀ key ∈ keys, ∀ c ∈ key.toList, c.toNat < 128

instance (keys : List String) : Decidable (AsciiKeys keys) :=
  have (key : String) : Decidable (∀ c ∈ key.toList, c.toNat < 128) :=
    List.decidableBAll (fun c => c.toNat < 128) key.toList
  List.decidableBAll (fun key : String => ∀ c ∈ key.toList, c.toNat < 128) keys

/-- A text that is an ASCII text up to case is one itself. -/
theorem ascii_of_map_toLower {part key : List Char} (hascii : ∀ c ∈ key, c.toNat < 128)
    (hcase : part.map Char.toLower = key.map Char.toLower) : ∀ c ∈ part, c.toNat < 128 := by
  intro c hc
  have hmem : c.toLower ∈ key.map Char.toLower := hcase ▸ List.mem_map_of_mem hc
  obtain ⟨d, hd, hlower⟩ := List.mem_map.1 hmem
  rw [← Text.toNat_toLower_lt_iff, ← hlower, Text.toNat_toLower_lt_iff]
  exact hascii d hd

/-- A key of ASCII is found in every text in which it occurs up to case. -/
theorem occursIn_lower_of_mention {key part text : List Char} (hascii : ∀ c ∈ key, c.toNat < 128)
    (hpart : part <:+: text) (hcase : part.map Char.toLower = key.map Char.toLower) :
    occursIn (lower key) (lower text) = true := by
  obtain ⟨before, after, rfl⟩ := hpart
  -- whatever becomes of the text before the stretch, it stays before it
  obtain ⟨front, hfront⟩ := Text.exists_lowerFrom_append [] before (part ++ after)
  rw [occursIn_iff, Text.lower_of_ascii hascii, ← hcase, lower, List.append_assoc, hfront,
    Text.lowerFrom_append_of_ascii (ascii_of_map_toLower hascii hcase), ← List.append_assoc]
  exact ⟨front, _, rfl⟩

/-- Among keys that are texts, the first one that occurs settles it. -/
theorem mentionsAny_eq (keys : List String) (text : List Char) :
    mentionsAny text (keys.map .str)
      = .ok (keys.any fun key => occursIn (lower key.toList) text) := by
  induction keys with
  | nil => rfl
  | cons key keys ih =>
    rw [List.map_cons, List.any_cons, mentionsAny, ih]
    rcases hoccurs : occursIn (lower key.toList) text with - | -
    · simp [Value.textFor, hoccurs, bind, Except.bind]
    · simp [Value.textFor, hoccurs, bind, Except.bind, pure, Except.pure]

/-! ### Arguments that are covered -/

section
variable {keys : List String} {settings : Settings}

/-- An argument that mentions a key is shown as the cover. -/
theorem shownArgument_of_mentions (hkeys : settings.keys.items = .ok (keys.map .str))
    (hascii : AsciiKeys keys) {text : String} (h : Mentions keys text) :
    shownArgument settings (.str text)
      = .ok (settings.cover.text ++ " (sensitive information)") := by
  obtain ⟨key, hkey, part, hpart, hcase⟩ := h
  have hany : keys.any (fun key => occursIn (lower key.toList) (lower text.toList)) = true :=
    List.any_eq_true.2 ⟨key, hkey, occursIn_lower_of_mention (hascii key hkey) hpart hcase⟩
  have hsensitive : isSensitive (.str text) settings.keys = .ok true := by
    simp only [isSensitive, Value.textFor, hkeys, bind, Except.bind, mentionsAny_eq, hany]
  rw [shownArgument, hsensitive]
  rfl

/-- Two arguments are the same, or both mention a key. -/
def Covered (keys : List String) (x y : String) : Prop :=
  x = y ∨ (Mentions keys x ∧ Mentions keys y)

theorem shownArgument_eq_of_covered (hkeys : settings.keys.items = .ok (keys.map .str))
    (hascii : AsciiKeys keys) {x y : String} (h : Covered keys x y) :
    shownArgument settings (.str x) = shownArgument settings (.str y) := by
  rcases h with rfl | ⟨hx, hy⟩
  · rfl
  · rw [shownArgument_of_mentions hkeys hascii hx, shownArgument_of_mentions hkeys hascii hy]

theorem shownArguments_list (settings : Settings) (arguments : List Value) :
    shownArguments settings (.list arguments)
      = if arguments.isEmpty then .ok [] else arguments.mapM (shownArgument settings) := by
  cases arguments <;> rfl

/-- Arguments that are covered place by place are shown alike. -/
theorem shownArguments_eq_of_covered (hkeys : settings.keys.items = .ok (keys.map .str))
    (hascii : AsciiKeys keys) {xs ys : List String} (h : List.Forall₂ (Covered keys) xs ys) :
    shownArguments settings (.list (xs.map .str))
      = shownArguments settings (.list (ys.map .str)) := by
  have hmap : (xs.map Value.str).mapM (shownArgument settings)
      = (ys.map Value.str).mapM (shownArgument settings) := by
    induction h with
    | nil => rfl
    | cons hxy _ ih =>
      rw [List.map_cons, List.map_cons, List.mapM_cons, List.mapM_cons, ih,
        shownArgument_eq_of_covered hkeys hascii hxy]
  have hempty : (xs.map Value.str).isEmpty = (ys.map Value.str).isEmpty := by
    cases h <;> rfl
  rw [shownArguments_list, shownArguments_list, hempty, hmap]

end

/-! ### The banner -/

/-- What a configuration says about sensitive keys. -/
def askedKeys (config : Value) : Except Misuse Value := do
  (← (config.orElse (.map [])).group "banner").entry "sensitive_keys"

/-- The keys in force under a configuration: its own if it names any, else the
default ones. -/
inductive KeysInForce (config : Value) : List String → Prop
  | configured {asked : Value} {keys : List String} : askedKeys config = .ok asked →
      asked.isPresent = true → asked.items = .ok (keys.map .str) → KeysInForce config keys
  | default {asked : Value} : askedKeys config = .ok asked → asked.isPresent = false →
      KeysInForce config defaultKeys

theorem keys_of_settings {config asked : Value} (hasked : askedKeys config = .ok asked)
    {settings : Settings} (h : Settings.of (config.orElse (.map [])) = .ok settings) :
    settings.keys = asked.orElse defaultKeysValue := by
  unfold askedKeys at hasked
  unfold Settings.of at h
  rcases hbanner : (config.orElse (.map [])).group "banner" with e | banner
  · rw [hbanner] at hasked
    cases hasked
  rw [hbanner] at hasked h
  have hkeys : banner.entry "sensitive_keys" = .ok asked := hasked
  rcases hcover : banner.entry "hidden_content" with e | cover
  · simp only [bind, Except.bind, hkeys, hcover] at h
    cases h
  · simp only [bind, Except.bind, hkeys, hcover] at h
    cases h
    rfl

/-- The settings of a banner have the keys in force. -/
theorem items_keys_of_keysInForce {config : Value} {keys : List String}
    (hforce : KeysInForce config keys) {settings : Settings}
    (h : Settings.of (config.orElse (.map [])) = .ok settings) :
    settings.keys.items = .ok (keys.map .str) := by
  cases hforce with
  | configured hasked hpresent hitems =>
    rw [keys_of_settings hasked h, Value.orElse, if_pos hpresent]
    exact hitems
  | default hasked habsent =>
    rw [keys_of_settings hasked h, Value.orElse, habsent]
    rfl

/-- **Sensitive arguments leave no trace.**  Two lists of arguments that differ only at
places where both mention a key, up to the case of ASCII letters, give the same
banner: the same lines or the same fault, after the same events. -/
theorem lines_eq_of_covered (h : Host) (component : Value) {config : Value} {keys : List String}
    (hforce : KeysInForce config keys) (hascii : AsciiKeys keys) {xs ys : List String}
    (hcovered : List.Forall₂ (Covered keys) xs ys) (source : Option MemorySource) :
    lines h component (.list (xs.map .str)) config source
      = lines h component (.list (ys.map .str)) config source := by
  have hgather : gather h component (.list (xs.map .str)) config source
      = gather h component (.list (ys.map .str)) config source := by
    unfold gather
    -- without settings there is no banner; with them only the shown arguments matter
    refine Traced.bind_congr fun settings hsettings => ?_
    have hof := Traced.outcome_use_eq_ok_iff.1 hsettings
    rw [shownArguments_eq_of_covered (items_keys_of_keysInForce hforce hof) hascii hcovered]
  rw [lines, lines, hgather]

/-- Two passwords, one of them in mixed case behind letters beyond ASCII. -/
theorem lines_eq_of_passwords :
    KeysInForce (.map []) defaultKeys ∧ AsciiKeys defaultKeys ∧
      Mentions defaultKeys "--db.password=hunter2" ∧ Mentions defaultKeys "İΣPassWord=Σ" ∧
      lines bareHost (.str "TaskRunner")
          (.list (["--db.password=hunter2", "in.csv"].map .str)) (.map []) none
        = lines bareHost (.str "TaskRunner")
          (.list (["İΣPassWord=Σ", "in.csv"].map .str)) (.map []) none := by
  have hforce : KeysInForce (.map []) defaultKeys := .default rfl rfl
  have hascii : AsciiKeys defaultKeys := by decide +kernel
  have hfirst : Mentions defaultKeys "--db.password=hunter2" :=
    ⟨"password", by decide, "password".toList, ⟨"--db.".toList, "=hunter2".toList, by decide⟩, rfl⟩
  have hsecond : Mentions defaultKeys "İΣPassWord=Σ" :=
    ⟨"password", by decide, "PassWord".toList, ⟨"İΣ".toList, "=Σ".toList, by decide⟩, by decide⟩
  exact ⟨hforce, hascii, hfirst, hsecond, lines_eq_of_covered bareHost (.str "TaskRunner") hforce
    hascii (.cons (.inr ⟨hfirst, hsecond⟩) (.cons (.inl rfl) .nil)) none⟩

end StartupReport.Banner
