/-
StartupReport/Proofs/Build/VersionFileReading.lean

A version file, written and read again.

The text of a version file is the escaped form of a plain text (`plainText`,
`render_eq`): a headline and one line for each key.  What is read from its
bytes is therefore what `readPlain` reads from the plain text
(`parseBytes_of_render`), and that is what the lines of the keys hold, one
after another (`readPlain_plainText`).  The line of a key holds that key first
and, if its value has line ends, whatever the further lines spell.

`parseBytes_render_iff` says which values come back.  If every value survives,
each line holds its key and its value.  If one does not, nothing that is read
can stand for it: a line that a value brings in may take the place of another,
but what is read from it survives.
-/
import StartupReport.Proofs.Properties.PlainPairs
import StartupReport.Build.VersionFile

namespace StartupReport.Build

open Properties (escape escape_append escape_cons escape_nil readPlain plainLine? plainKey
  plainValue plainPair plainPairs fileLines bareLine afterPlainGap isByteBlank endsKey isLineEnd
  isCommentMark OnOneLine Survives withoutLineEnd)

/-! ### The plain text of a version file -/

/-- The value of a key, empty if the key is missing. -/
def valueOf (ps : Properties) (key : String) : String := (Entries.get? ps key).getD ""

/-- Every key of a version file has a value. -/
def Complete (ps : Properties) : Prop :=
  ∀ key ∈ keyOrder, (Entries.get? ps key).isSome = true

instance (ps : Properties) : Decidable (Complete ps) := by
  unfold Complete; infer_instance

/-- The keys of a version file with their values, in the order of the file. -/
def ordered (ps : Properties) : Properties := keyOrder.map fun key => (key, valueOf ps key)

/-- The line of a key, without escapes. -/
def plainLine (ps : Properties) (key : String) : List Char :=
  key.toList ++ '=' :: (valueOf ps key).toList

/-- The text of a version file, without escapes. -/
def plainText (ps : Properties) : List Char :=
  (headline :: keyOrder.map (plainLine ps)).flatMap (· ++ ['\n'])

/-- The characters of a key begin no comment and end neither a key nor a line, and
they are written as themselves. -/
theorem key_facts : ∀ key ∈ keyOrder, key.toList ≠ [] ∧ escape key.toList = key.toList ∧
    ∀ c ∈ key.toList, endsKey c = false ∧ isLineEnd c = false ∧ isCommentMark c = false := by
  have all : ∀ key ∈ keyOrder, key.toList ≠ [] ∧ escape key.toList = key.toList ∧
      (key.toList.all fun c => !(endsKey c || isLineEnd c || isCommentMark c)) = true := by
    decide
  intro key hkey
  obtain ⟨hne, hescape, hchars⟩ := all key hkey
  refine ⟨hne, hescape, fun c hc => ?_⟩
  have hc' := List.all_eq_true.1 hchars c hc
  simpa [and_assoc] using hc'

theorem escape_headline : escape headline = headline := by decide

theorem nodup_keyOrder : keyOrder.Nodup := by decide

theorem get?_eq_valueOf {ps : Properties} (h : Complete ps) {key : String}
    (hkey : key ∈ keyOrder) : Entries.get? ps key = some (valueOf ps key) := by
  obtain ⟨value, hvalue⟩ := Option.isSome_iff_exists.1 (h key hkey)
  rw [valueOf, hvalue, Option.getD_some]

theorem escape_plainLine (ps : Properties) {key : String} (hkey : key ∈ keyOrder) :
    escape (plainLine ps key) = key.toList ++ '=' :: escape (valueOf ps key).toList := by
  rw [plainLine, escape_append, escape_cons, (key_facts key hkey).2.1]
  rfl

theorem escape_flatMap (lines : List (List Char)) :
    escape (lines.flatMap (· ++ ['\n'])) = (lines.map escape).flatMap (· ++ ['\n']) := by
  induction lines with
  | nil => rfl
  | cons line lines ih =>
    rw [List.flatMap_cons, escape_append, escape_append, ih, List.map_cons, List.flatMap_cons]
    rfl

/-- A version file is the escaped form of its plain text. -/
theorem render_eq {ps : Properties} (h : Complete ps) :
    render ps = .ok (escape (plainText ps)) := by
  have hlines : keyOrder.mapM (renderEntry ps)
      = .ok (keyOrder.map fun key => escape (plainLine ps key)) := by
    refine mapM_eq_pure fun key hkey => ?_
    rw [renderEntry, get?_eq_valueOf h hkey, escape_plainLine ps hkey]
    rfl
  rw [render, hlines, plainText, escape_flatMap, List.map_cons, escape_headline, List.map_map]
  rfl

/-- The bytes of a version file hold what its plain text says. -/
theorem parseBytes_of_render {ps : Properties} (h : Complete ps) {text : List Char}
    {bytes : List UInt8} (htext : render ps = .ok text)
    (hbytes : Text.Latin1.encode? text = some bytes) :
    Properties.parseBytes bytes
      = readPlain (fileLines (plainText ps)) := by
  obtain rfl : escape (plainText ps) = text := by
    rw [render_eq h] at htext
    exact Except.ok.inj htext
  rw [Properties.parseBytes, Text.Latin1.decode_of_encode? hbytes,
    Properties.parseStream_escape, fileLines]

/-! ### A line of its own -/

section

variable {key : String} (hkey : key ∈ keyOrder) {value : List Char}

include hkey

theorem plainKey_entry : plainKey (key.toList ++ '=' :: value) = key.toList := by
  obtain ⟨-, -, hchars⟩ := key_facts key hkey
  have hsep : endsKey '=' = true := by decide
  rw [plainKey, List.takeWhile_append_of_pos fun c hc => by simp [(hchars c hc).1],
    List.takeWhile_cons_of_neg (by simp [hsep]), List.append_nil]

theorem plainValue_entry :
    plainValue (key.toList ++ '=' :: value) = value.dropWhile isByteBlank := by
  obtain ⟨-, -, hchars⟩ := key_facts key hkey
  have hsep : endsKey '=' = true := by decide
  have hblank : isByteBlank '=' = false := by decide
  rw [plainValue, List.dropWhile_append_of_pos fun c hc => by simp [(hchars c hc).1],
    List.dropWhile_cons_of_neg (by simp [hsep]), afterPlainGap,
    List.dropWhile_cons_of_neg (by simp [hblank])]
  rfl

theorem bareLine_entry (h : OnOneLine value) :
    bareLine (key.toList ++ '=' :: value ++ ['\n']) = key.toList ++ '=' :: value := by
  obtain ⟨hne, -, hchars⟩ := key_facts key hkey
  have hkeep : withoutLineEnd (key.toList ++ '=' :: value) = key.toList ++ '=' :: value := by
    refine Text.dropEndWhile_of_forall fun c hc => ?_
    rcases List.mem_append.1 hc with hc | hc
    · exact (hchars c hc).2.1
    · rcases List.mem_cons.1 hc with rfl | hc
      · decide
      · exact h c hc
  rw [bareLine, withoutLineEnd, Text.dropEndWhile_append_singleton, if_pos (by decide)]
  rw [withoutLineEnd] at hkeep
  rw [hkeep]
  -- the first character of the line is the first of the key
  obtain ⟨c, cs, hcs⟩ := List.exists_cons_of_ne_nil hne
  have hblank : isByteBlank c = false := by
    have hend := (hchars c (hcs ▸ List.mem_cons_self)).1
    simp only [endsKey, Bool.or_eq_false_iff] at hend
    exact hend.2
  rw [hcs, List.cons_append, List.dropWhile_cons_of_neg (by simp [hblank])]

theorem plainLine?_entry (h : OnOneLine value) :
    plainLine? (key.toList ++ '=' :: value ++ ['\n']) = some (key.toList ++ '=' :: value) := by
  obtain ⟨hne, -, hchars⟩ := key_facts key hkey
  obtain ⟨c, cs, hcs⟩ := List.exists_cons_of_ne_nil hne
  have hmark : isCommentMark c = false := (hchars c (hcs ▸ List.mem_cons_self)).2.2
  rw [plainLine?, bareLine_entry hkey h, hcs]
  simp [hmark]

theorem plainPair_entry :
    plainPair (key.toList ++ '=' :: value)
      = (key, String.ofList (value.dropWhile isByteBlank)) := by
  rw [plainPair, plainKey_entry hkey, plainValue_entry hkey, String.ofList_toList]

theorem onOneLine_entry (h : OnOneLine value) : OnOneLine (key.toList ++ '=' :: value) := by
  obtain ⟨-, -, hchars⟩ := key_facts key hkey
  refine List.forall_mem_append.2 ⟨fun c hc => (hchars c hc).2.1, ?_⟩
  exact List.forall_mem_cons.2 ⟨by decide, h⟩

/-- The line of a key whose value has no line end holds that key alone. -/
theorem plainPairs_entry (h : OnOneLine value) :
    plainPairs (key.toList ++ '=' :: value ++ ['\n'])
      = [(key, String.ofList (value.dropWhile isByteBlank))] := by
  rw [plainPairs, Properties.fileLines_of_onOneLine (onOneLine_entry hkey h),
    List.filterMap_cons_some (plainLine?_entry hkey h), List.filterMap_nil, List.map_singleton,
    plainPair_entry hkey]

variable (value) in
/-- The line of a key holds that key first, whatever lines its value brings in. -/
theorem exists_plainPairs_entry :
    ∃ first more, plainPairs (key.toList ++ '=' :: value ++ ['\n']) = (key, first) :: more := by
  obtain ⟨first, e, rest, hcut, hfirst, he⟩ := Properties.exists_firstLineEnd value
  obtain ⟨lines, hlines⟩ := Properties.exists_fileLines_eq (onOneLine_entry hkey hfirst) he rest
  refine ⟨String.ofList (first.dropWhile isByteBlank),
    (lines.filterMap plainLine?).map plainPair, ?_⟩
  have htext : key.toList ++ '=' :: value ++ ['\n'] = key.toList ++ '=' :: first ++ e :: rest := by
    rw [List.append_assoc, List.cons_append, hcut, List.append_assoc, List.cons_append]
  rw [htext, plainPairs, hlines, List.filterMap_cons_some (plainLine?_entry hkey hfirst),
    List.map_cons, plainPair_entry hkey]

end

/-! ### What the lines of keys hold -/

/-- What the lines of some keys hold, one after another. -/
def held (ps : Properties) (keys : List String) : List (String × String) :=
  keys.flatMap fun key => plainPairs (plainLine ps key ++ ['\n'])

theorem held_append (ps : Properties) (keys later : List String) :
    held ps (keys ++ later) = held ps keys ++ held ps later := List.flatMap_append

/-- A version file holds what the lines of its keys hold. -/
theorem readPlain_plainText (ps : Properties) :
    readPlain (fileLines (plainText ps)) = Entries.ofPairs (held ps keyOrder) := by
  have hskip : plainPairs (headline ++ ['\n']) = [] := by decide
  rw [Properties.readPlain_fileLines, plainText, Properties.plainPairs_flatMap, List.flatMap_cons,
    hskip, List.nil_append, List.flatMap_map]
  rfl

/-- Keys whose values have no line ends are held one by one. -/
theorem held_of_onOneLine {ps : Properties} {keys : List String} (hkeys : keys ⊆ keyOrder)
    (h : ∀ key ∈ keys, OnOneLine (valueOf ps key).toList) :
    held ps keys = keys.map fun key =>
      (key, String.ofList ((valueOf ps key).toList.dropWhile isByteBlank)) := by
  induction keys with
  | nil => rfl
  | cons key keys ih =>
    have hkey : key ∈ keyOrder := hkeys List.mem_cons_self
    have hfirst : plainPairs (plainLine ps key ++ ['\n'])
        = [(key, String.ofList ((valueOf ps key).toList.dropWhile isByteBlank))] :=
      plainPairs_entry hkey (h key List.mem_cons_self)
    rw [held, List.flatMap_cons, hfirst, List.map_cons]
    exact congrArg _ <| ih (fun k hk => hkeys (List.mem_cons_of_mem _ hk))
      fun k hk => h k (List.mem_cons_of_mem _ hk)

/-- Every key has a line that holds it. -/
theorem mem_held {ps : Properties} {keys : List String} (hkeys : keys ⊆ keyOrder) {key : String}
    (hkey : key ∈ keys) : key ∈ (held ps keys).map (·.1) := by
  obtain ⟨first, more, hpairs⟩ := exists_plainPairs_entry (hkeys hkey) (valueOf ps key).toList
  refine List.mem_map.2 ⟨(key, first), List.mem_flatMap.2 ⟨key, hkey, ?_⟩, rfl⟩
  rw [plainLine, hpairs]
  exact List.mem_cons_self

/-! ### Writing and reading -/

section

variable {ps : Properties}

/-- If every value survives, the plain text holds the keys and values in order. -/
theorem readPlain_of_survives (hs : ∀ key ∈ keyOrder, Survives (valueOf ps key).toList) :
    readPlain (fileLines (plainText ps)) = ordered ps := by
  have hheld : held ps keyOrder = ordered ps := by
    rw [held_of_onOneLine (List.Subset.refl _) fun key hkey => (hs key hkey).onOneLine]
    refine List.map_congr_left fun key hkey => ?_
    rw [(hs key hkey).dropWhile_eq, String.ofList_toList]
  rw [readPlain_plainText, hheld]
  -- no key is read twice, so none replaces another
  refine Entries.ofPairs_of_nodup ?_
  rw [ordered, List.map_map]
  exact (List.map_id keyOrder).symm ▸ nodup_keyOrder

/-- **Writing and reading a version file.**  Every text of a version file has
bytes, and what is read from them is what was written, key by key and in order,
if and only if no value has a line end in it or a blank up to U+00FF in front. -/
theorem parseBytes_render_iff (ps : Properties) (h : Complete ps) :
    ∃ text bytes, render ps = .ok text ∧ (∀ c ∈ text, c.toNat ≤ 0xFF) ∧
      Text.Latin1.encode? text = some bytes ∧
      (Properties.parseBytes bytes = ordered ps ↔
        ∀ key ∈ keyOrder, ∀ value, Entries.get? ps key = some value →
          Survives value.toList) := by
  have hholds : (escape (plainText ps)).all Text.Latin1.holds = true :=
    List.all_eq_true.2 fun c hc => Properties.holds_of_mem_escape hc
  obtain ⟨bytes, hbytes⟩ : ∃ bytes, Text.Latin1.encode? (escape (plainText ps)) = some bytes :=
    ⟨_, Text.Latin1.encode?_eq_some_iff.2 ⟨hholds, rfl⟩⟩
  refine ⟨_, bytes, render_eq h, fun c hc => ?_, hbytes, ?_⟩
  · simpa [Text.Latin1.holds] using List.all_eq_true.1 hholds c hc
  rw [parseBytes_of_render h (render_eq h) hbytes]
  constructor
  · intro hread key hkey value hvalue
    -- whichever line the value was read from, what is read survives
    have hmem : (key, valueOf ps key) ∈ ordered ps := List.mem_map_of_mem hkey
    rw [← hread] at hmem
    have hs := Properties.survives_of_mem_readPlain hmem
    rw [get?_eq_valueOf h hkey] at hvalue
    exact Option.some.inj hvalue ▸ hs
  · intro hs
    exact readPlain_of_survives fun key hkey => hs key hkey _ (get?_eq_valueOf h hkey)

/-- Values full of marks that the reader looks for. -/
def marked : Properties :=
  [(projectVersionKey, "1.0\\"), (toolchainVersionKey, "= : # !"), (commitIdKey, "\\u0041\\\\"),
   (commitIdAbbrevKey, ""), (commitTimeKey, "\u2003𝄞 \t"), (buildTimeKey, "é=\\\u20AC")]

theorem parseBytes_render_marked : Complete marked ∧
    ∃ text bytes, render marked = .ok text ∧ (∀ c ∈ text, c.toNat ≤ 0xFF) ∧
      Text.Latin1.encode? text = some bytes ∧ Properties.parseBytes bytes = marked := by
  have hcomplete : Complete marked := by decide
  have hsurvive : ∀ key ∈ keyOrder, Survives (valueOf marked key).toList := by decide
  obtain ⟨text, bytes, htext, hholds, hbytes, hiff⟩ := parseBytes_render_iff marked hcomplete
  refine ⟨hcomplete, text, bytes, htext, hholds, hbytes, ?_⟩
  refine (hiff.2 fun key hkey value hvalue => ?_).trans rfl
  rw [get?_eq_valueOf hcomplete hkey] at hvalue
  exact Option.some.inj hvalue ▸ hsurvive key hkey

end

end StartupReport.Build
