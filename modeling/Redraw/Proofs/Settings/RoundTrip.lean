import Mathlib.Data.List.Nodup
import Redraw.Settings.Document
import Redraw.Proofs.Toml.Drafts
import Redraw.Proofs.Toml.Reading
import Redraw.Proofs.Toml.Words

/-
  Settings that are written are read back, and so is every part
  of them.

  The document of the chosen keys is read line by line as their
  values, some at the top and some in the table of capabilities.
  From any document that is read so, however it is laid out, the
  settings take the chosen values and the defaults elsewhere.

  Key definitions include:
    * `Settings.value`: the value of a key
    * `Settings.Holds`: a table with the values of chosen keys
    * `Settings.Tells`: a document of such a table
    * `Settings.mix`: some keys from one and some from another

  Main declarations:
    * `Settings.ofEntries?_of_holds`
    * `Settings.tells_document`
    * `Settings.reads_back`
-/

namespace Redraw

------------------------------------------------------------
-- Keys
------------------------------------------------------------

namespace Setting

theorem isBare_key
    (k : Setting) :
    Toml.isRun Toml.isBareKeyChar k.key = true := by
  cases k <;> decide

theorem key_injective :
    Function.Injective key := by
  intro k j h
  cases k <;> cases j <;> first | rfl | exact absurd h (by decide)

theorem key_ne_capabilitiesKey
    (k : Setting) :
    k.key ≠ Settings.capabilitiesKey := by
  cases k <;> decide

end Setting

namespace ColorDepth

theorem ofName?_name
    (d : ColorDepth) :
    ofName? d.name = some d := by
  cases d <;> decide

theorem isBare_name
    (d : ColorDepth) :
    Toml.isRun Toml.isBareKeyChar d.name = true := by
  cases d <;> decide

end ColorDepth

namespace Settings

variable {s : Settings} {chosen : Setting → Bool}

/- The value of a key. -/
def value
    (s : Settings) :
    Setting → Toml.Value
  | .frameInterval => .integer s.frameInterval
  | .shutdownTimeout => .integer s.shutdownTimeout
  | .colorDepth => .text s.capabilities.colorDepth.name
  | .styledUnderline => .boolean s.capabilities.styledUnderline
  | .synchronizedOutput =>
      .boolean s.capabilities.synchronizedOutput

/- The chosen keys of the first, and the others of the second. -/
def mix
    (chosen : Setting → Bool)
    (s t : Settings) : Settings where
  frameInterval :=
    if chosen .frameInterval then s.frameInterval
    else t.frameInterval
  shutdownTimeout :=
    if chosen .shutdownTimeout then s.shutdownTimeout
    else t.shutdownTimeout
  capabilities :=
    { colorDepth :=
        if chosen .colorDepth then s.capabilities.colorDepth
        else t.capabilities.colorDepth
      styledUnderline :=
        if chosen .styledUnderline then
          s.capabilities.styledUnderline
        else t.capabilities.styledUnderline
      synchronizedOutput :=
        if chosen .synchronizedOutput then
          s.capabilities.synchronizedOutput
        else t.capabilities.synchronizedOutput }

theorem mix_all
    (s t : Settings) :
    mix (fun _ => true) s t = s :=
  rfl

------------------------------------------------------------
-- Tables
------------------------------------------------------------

/- A table gives the chosen of some keys, and none of the rest. -/
def Gives
    (s : Settings)
    (chosen : Setting → Bool)
    (keys : List Setting)
    (es : Toml.Entries) : Prop :=
  ∀ k ∈ keys,
    es.lookup k.key = if chosen k then some (s.value k) else none

/-
  A table with the values of the chosen keys: those at the top
  in the table itself, and those of the capabilities in a table
  of its own, which may be missing if none of them is chosen.
  Keys that are not of the settings may stand anywhere.
-/
structure Holds
    (s : Settings)
    (chosen : Setting → Bool)
    (es : Toml.Entries) : Prop where
  top : s.Gives chosen Setting.top es
  nested :
    match es.lookup capabilitiesKey with
    | none => ∀ k ∈ Setting.nested, chosen k = false
    | some (.table _ inner) =>
        s.Gives chosen Setting.nested inner
    | some _ => False

/- A document, however laid out, of a table that holds them. -/
def Tells
    (s : Settings)
    (chosen : Setting → Bool)
    (document : List Char) : Prop :=
  ∃ es, Toml.read document = some es ∧ s.Holds chosen es

/- A chosen key is read as its value, any other as absent. -/
theorem Gives.get?
    {α : Type}
    {keys : List Setting}
    {es : Toml.Entries}
    {absent present : α}
    {read : Toml.Value → Option α}
    (h : s.Gives chosen keys es)
    (k : Setting)
    (hKey : k ∈ keys)
    (hRead : read (s.value k) = some present) :
    es.get? k.key absent read =
      some (if chosen k then present else absent) := by
  have hLookup := h k hKey
  by_cases hChosen : chosen k <;>
    simp [Toml.Entries.get?, hLookup, hChosen, hRead]

/- The capabilities of a table that gives the chosen of them. -/
theorem ofEntries?_of_gives
    {inner : Toml.Entries}
    (h : s.Gives chosen Setting.nested inner) :
    Capabilities.ofEntries? inner =
      some (mix chosen s {}).capabilities := by
  have hDepth :
      inner.get? Capabilities.colorDepthKey .trueColor
          ColorDepth.ofValue? =
        some (mix chosen s {}).capabilities.colorDepth :=
    h.get? .colorDepth (by decide)
      (ColorDepth.ofName?_name s.capabilities.colorDepth)
  have hStyled :
      inner.get? Capabilities.styledUnderlineKey true
          Toml.Value.boolean? =
        some (mix chosen s {}).capabilities.styledUnderline :=
    h.get? .styledUnderline (by decide) rfl
  have hSync :
      inner.get? Capabilities.synchronizedOutputKey true
          Toml.Value.boolean? =
        some (mix chosen s {}).capabilities.synchronizedOutput :=
    h.get? .synchronizedOutput (by decide) rfl
  rw [Capabilities.ofEntries?, hDepth, hStyled, hSync]
  rfl

/- Without chosen capabilities, there may be no table of them. -/
theorem capabilities_mix_of_none
    (hNone : ∀ k ∈ Setting.nested, chosen k = false) :
    (mix chosen s {}).capabilities = {} := by
  simp [mix, hNone .colorDepth (by decide),
    hNone .styledUnderline (by decide),
    hNone .synchronizedOutput (by decide)]

/- Settings from a table: chosen values, and defaults elsewhere. -/
theorem ofEntries?_of_holds
    {es : Toml.Entries}
    (h : s.Holds chosen es) :
    ofEntries? es = some (mix chosen s {}) := by
  have hInterval :
      es.get? frameIntervalKey 8 Toml.Value.natural? =
        some (mix chosen s {}).frameInterval :=
    h.top.get? .frameInterval (by decide) rfl
  have hTimeout :
      es.get? shutdownTimeoutKey 500 Toml.Value.natural? =
        some (mix chosen s {}).shutdownTimeout :=
    h.top.get? .shutdownTimeout (by decide) rfl
  have hCaps :
      es.get? capabilitiesKey {} Capabilities.ofValue? =
        some (mix chosen s {}).capabilities := by
    have hNested := h.nested
    unfold Toml.Entries.get?
    split at hNested
    · rename_i hNone
      rw [hNone, capabilities_mix_of_none hNested]
    · rename_i hTable
      rw [hTable]
      exact ofEntries?_of_gives hNested
    · exact hNested.elim
  rw [ofEntries?, hInterval, hTimeout, hCaps]
  rfl

------------------------------------------------------------
-- Lines
------------------------------------------------------------

/- Numbers that can be written. -/
def Fits (s : Settings) : Prop :=
  s.frameInterval ≤ numberLimit ∧ s.shutdownTimeout ≤ numberLimit

theorem isRun_decimal
    (n : Nat) :
    Toml.isRun Toml.isTokenChar (decimal n) = true := by
  refine Toml.isRun_iff.mpr ⟨decimal_ne_nil n, fun c hc => ?_⟩
  have hDigit := List.all_eq_true.mp (isDigit_decimal n) c hc
  simp [Toml.isTokenChar, Char.isAlphanum, hDigit]

theorem isRun_truth
    (b : Bool) :
    Toml.isRun Toml.isTokenChar (truth b) = true := by
  cases b <;> decide

theorem ofToken?_truth
    (b : Bool) :
    Toml.ofToken? (truth b) = some (.boolean b) := by
  cases b <;> rfl

/- The value of a key is read back. -/
theorem readValue_valueText
    {n : Nat}
    {rest : List Char}
    (hFits : s.Fits)
    (k : Setting) :
    Toml.readValue n (s.valueText k ++ '\n' :: rest) =
      some (s.value k, '\n' :: rest) := by
  cases k with
  | frameInterval =>
      exact Toml.readValue_word (isRun_decimal _)
        (Toml.ofToken?_decimal hFits.1)
  | shutdownTimeout =>
      exact Toml.readValue_word (isRun_decimal _)
        (Toml.ofToken?_decimal hFits.2)
  | colorDepth =>
      have hShape :
          s.valueText .colorDepth ++ '\n' :: rest =
            '"' :: s.capabilities.colorDepth.name
              ++ '"' :: '\n' :: rest := by
        simp [valueText]
      rw [hShape]
      exact Toml.readValue_text (ColorDepth.isBare_name _)
  | styledUnderline =>
      exact Toml.readValue_word (isRun_truth _) (ofToken?_truth _)
  | synchronizedOutput =>
      exact Toml.readValue_word (isRun_truth _) (ofToken?_truth _)

/- There are no blanks before the value of a key. -/
theorem skipBlanks_valueText
    {rest : List Char}
    (k : Setting) :
    Toml.skipBlanks (s.valueText k ++ rest) =
      s.valueText k ++ rest := by
  have hWord : ∀ {cs : List Char},
      Toml.isRun Toml.isTokenChar cs = true →
        Toml.skipBlanks (cs ++ rest) = cs ++ rest :=
    fun h => Toml.skipBlanks_append h (by decide) (by decide)
  cases k with
  | frameInterval => exact hWord (isRun_decimal _)
  | shutdownTimeout => exact hWord (isRun_decimal _)
  | colorDepth =>
      exact Toml.skipBlanks_cons (by decide) (by decide)
  | styledUnderline => exact hWord (isRun_truth _)
  | synchronizedOutput => exact hWord (isRun_truth _)

------------------------------------------------------------
-- Documents
------------------------------------------------------------

/- What the line of a key says. -/
def entry
    (s : Settings)
    (k : Setting) : Toml.Key × Toml.Value :=
  (k.key, s.value k)

/- A line is read as the entry of its key. -/
theorem reads_line
    {rest : List Char}
    {sts : List Toml.Statement}
    (hFits : s.Fits)
    (k : Setting)
    (hRest : Toml.Reads rest sts) :
    Toml.Reads (s.line k ++ rest)
      (Toml.assignment (s.entry k) :: sts) := by
  have hShape :
      s.line k ++ rest =
        k.key ++ " = ".toList ++ (s.valueText k ++ '\n' :: rest) := by
    simp [line]
  have hStatement :
      Toml.readStatement (s.line k ++ rest) =
        some (Toml.assignment (s.entry k), '\n' :: rest) := by
    rw [hShape]
    exact Toml.readStatement_assign k.isBare_key
      (skipBlanks_valueText k) (readValue_valueText hFits k)
  refine hRest.line ?_ ?_ hStatement
  · rcases Toml.exists_cons_of_isRun k.isBare_key with
      ⟨c, cs, hKey, hHead⟩
    simp [line, hKey, Toml.startsLine, hHead]
  · simp [line]
    omega

/- Lines are read as the entries of their keys. -/
theorem reads_lines
    {rest : List Char}
    {sts : List Toml.Statement}
    (hFits : s.Fits)
    (keys : List Setting)
    (hRest : Toml.Reads rest sts) :
    Toml.Reads (keys.flatMap s.line ++ rest)
      ((keys.map s.entry).map Toml.assignment ++ sts) := by
  induction keys with
  | nil => exact hRest
  | cons k keys ih =>
      rw [List.flatMap_cons, List.append_assoc]
      exact reads_line hFits k ih

theorem reads_all_lines
    (hFits : s.Fits)
    (keys : List Setting) :
    Toml.Reads (keys.flatMap s.line)
      ((keys.map s.entry).map Toml.assignment) := by
  simpa using reads_lines hFits keys Toml.Reads.nil

theorem reads_header
    {rest : List Char}
    {sts : List Toml.Statement}
    (hRest : Toml.Reads rest sts) :
    Toml.Reads (header ++ rest)
      (.openTable [] capabilitiesKey :: sts) := by
  have hBare :
      Toml.isRun Toml.isBareKeyChar capabilitiesKey = true := by
    decide
  refine hRest.line rfl ?_ ?_
  · simp [header]
    omega
  · have hRead :
        Toml.readStatement
            ('[' :: capabilitiesKey ++ ']' :: '\n' :: rest) =
          some (.openTable [] capabilitiesKey, '\n' :: rest) :=
      Toml.readStatement_openTable hBare
    simpa [header] using hRead

/- The chosen of some keys, with their values. -/
def entries
    (s : Settings)
    (chosen : Setting → Bool)
    (keys : List Setting) : List (Toml.Key × Toml.Value) :=
  (keys.filter chosen).map s.entry

theorem lookup_entries
    (keys : List Setting)
    (k : Setting) :
    (s.entries chosen keys).lookup k.key =
      if k ∈ keys ∧ chosen k then some (s.value k) else none := by
  induction keys with
  | nil => rfl
  | cons j keys ih =>
      by_cases hChosen : chosen j
      · have hShape :
            s.entries chosen (j :: keys) =
              (j.key, s.value j) :: s.entries chosen keys := by
          simp [entries, hChosen, entry]
        rw [hShape, Toml.Entries.lookup_cons_eq, ih]
        by_cases hKey : k = j
        · simp [hKey, hChosen]
        · simp [hKey, Setting.key_injective.eq_iff]
      · have hShape :
            s.entries chosen (j :: keys) = s.entries chosen keys := by
          simp [entries, hChosen]
        rw [hShape, ih]
        by_cases hKey : k = j
        · simp [hKey, hChosen]
        · simp [hKey]

/- A table with the entries of chosen keys gives those. -/
theorem gives_of_lookup_eq
    {keys : List Setting}
    {es : Toml.Entries}
    (hEntries : ∀ k : Setting,
      es.lookup k.key = (s.entries chosen keys).lookup k.key) :
    s.Gives chosen keys es := by
  intro k hKey
  rw [hEntries, lookup_entries]
  simp [hKey]

theorem nodup_entries
    (s : Settings)
    (chosen : Setting → Bool)
    {keys : List Setting}
    (hKeys : keys.Nodup) :
    ((s.entries chosen keys).map Prod.fst).Nodup := by
  have hFirst :
      (s.entries chosen keys).map Prod.fst =
        (keys.filter chosen).map Setting.key := by
    simp [entries, entry, Function.comp_def]
  rw [hFirst]
  exact (hKeys.filter _).map Setting.key_injective

theorem lookup_capabilitiesKey
    (keys : List Setting) :
    (s.entries chosen keys).lookup capabilitiesKey = none := by
  rw [List.lookup_eq_none_iff]
  intro p hp
  rcases List.mem_map.mp hp with ⟨k, -, rfl⟩
  exact bne_iff_ne.mpr (Ne.symm k.key_ne_capabilitiesKey)

/- Without capabilities, all lines are at the top. -/
theorem tells_document_of_flat
    (hFits : s.Fits)
    (hNested : Setting.nested.filter chosen = []) :
    s.Tells chosen (s.document chosen) := by
  have hDocument :
      s.document chosen =
        (Setting.top.filter chosen).flatMap s.line := by
    simp [document, hNested]
  have hReads := reads_all_lines hFits (Setting.top.filter chosen)
  rcases Toml.ofStatements?_flat
      (nodup_entries s chosen (show Setting.top.Nodup by decide))
    with ⟨es, hTable, hLookup⟩
  refine ⟨es, ?_, gives_of_lookup_eq fun k => hLookup k.key, ?_⟩
  · rw [hDocument, hReads.read_eq]
    exact hTable
  · rw [hLookup, lookup_capabilitiesKey]
    intro k hKey
    simpa using List.filter_eq_nil_iff.mp hNested k hKey

/- With capabilities, a header stands before their lines. -/
theorem tells_document_of_table
    (hFits : s.Fits)
    (hNested : Setting.nested.filter chosen ≠ []) :
    s.Tells chosen (s.document chosen) := by
  let top := (Setting.top.filter chosen).flatMap s.line
  let gap := if top.isEmpty then [] else ['\n']
  let nested := (Setting.nested.filter chosen).flatMap s.line
  have hLines : nested.isEmpty = false := by
    rcases List.exists_cons_of_ne_nil hNested with ⟨k, keys, hKeys⟩
    simp [nested, hKeys, line]
  have hDocument :
      s.document chosen =
        top ++ (gap ++ (header ++ nested)) := by
    simp [document, hLines, top, gap, nested]
  let below : List Toml.Statement :=
    .openTable [] capabilitiesKey
      :: (s.entries chosen Setting.nested).map Toml.assignment
  have hBelow : Toml.Reads (header ++ nested) below :=
    reads_header (reads_all_lines hFits _)
  -- Only after other lines is there a blank one before the header.
  have hGap : Toml.Reads (gap ++ (header ++ nested)) below := by
    by_cases hEmpty : top.isEmpty
    · have hNone : gap = [] := if_pos hEmpty
      rw [hNone]
      exact hBelow
    · have hBlank : gap = ['\n'] := if_neg hEmpty
      rw [hBlank]
      exact hBelow.newline
  have hReads := reads_lines hFits (Setting.top.filter chosen) hGap
  rcases Toml.ofStatements?_table
      (nodup_entries s chosen (show Setting.top.Nodup by decide))
      (nodup_entries s chosen
        (show Setting.nested.Nodup by decide))
      (lookup_capabilitiesKey Setting.top)
    with ⟨es, inner, hTable, hOpened, hGiven, hOthers⟩
  refine ⟨es, ?_, gives_of_lookup_eq fun k => ?_, ?_⟩
  · rw [hDocument, hReads.read_eq]
    exact hTable
  · exact hOthers k.key k.key_ne_capabilitiesKey
  · rw [hOpened]
    exact gives_of_lookup_eq fun k => hGiven k.key

/- The document of chosen keys is one that tells them. -/
theorem tells_document
    (hFits : s.Fits)
    (chosen : Setting → Bool) :
    s.Tells chosen (s.document chosen) := by
  by_cases hNested : Setting.nested.filter chosen = []
  · exact tells_document_of_flat hFits hNested
  · exact tells_document_of_table hFits hNested

------------------------------------------------------------
-- Reading Back
------------------------------------------------------------

/- Settings from a document that tells the chosen keys. -/
theorem Tells.read?_eq
    {document : List Char}
    (h : s.Tells chosen document) :
    read? document = some (mix chosen s {}) := by
  rcases h with ⟨es, hRead, hHolds⟩
  rw [read?, hRead, Option.bind_some, ofEntries?_of_holds hHolds]

/-
  Settings whose numbers fit in a signed word are written, and
  what is written is read back as the same settings.  Of every
  choice of keys there is a document, and each document of them
  is read as the chosen values with the defaults elsewhere.
-/
theorem reads_back
    (hFits : s.Fits) :
    (∃ text, s.write? = some text ∧ read? text = some s) ∧
      ∀ chosen,
        s.Tells chosen (s.document chosen) ∧
          ∀ document,
            s.Tells chosen document →
              read? document = some (mix chosen s {}) := by
  have hWritable : s.isWritable = true := by
    simpa [isWritable, Fits] using hFits
  refine ⟨⟨s.document fun _ => true, ?_, ?_⟩, fun chosen => ?_⟩
  · rw [write?, if_pos hWritable]
  · have hRead := (tells_document hFits fun _ => true).read?_eq
    rwa [mix_all] at hRead
  · exact ⟨tells_document hFits chosen, fun _ h => h.read?_eq⟩

/- Slow frames, few colors and the longest timeout there is. -/
def slowSettings : Settings :=
  ⟨16, numberLimit, ⟨.indexed256, false, true⟩⟩

/- All keys of such settings, and a document of two of them. -/
theorem reads_back_slow :
    slowSettings.Fits ∧
      (∃ text,
          slowSettings.write? = some text ∧
            read? text = some slowSettings) ∧
        read?
            ("min_frame_interval_ms = 16\n\n[capabilities]\n"
              ++ "color_depth = \"indexed256\"\n").toList =
          some ⟨16, 500, ⟨.indexed256, true, true⟩⟩ := by
  have hFits : slowSettings.Fits := by
    unfold Fits
    decide
  have hBack := reads_back hFits
  have hChosen := hBack.2 fun k =>
    k = .frameInterval || k = .colorDepth
  refine ⟨hFits, hBack.1, hChosen.2 _ ?_⟩
  exact hChosen.1

end Settings

end Redraw
