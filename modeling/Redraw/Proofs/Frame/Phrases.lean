import Redraw.Proofs.Frame.Restyling

/-
  Phrases: what a style change says, one thing after another.

  A number in a style change stands for itself or starts a
  color, so that the groups of a sequence can be taken in one
  way only.  A transition between styles that a terminal can
  show says nothing that the terminal has not, and nothing but
  phrases of the common rules.

  Key definitions include:
    * `ColorKind`, `Phrase`
    * `Phrase.groups`: a phrase as it is said
    * `Phrase.IsWhole`: a number that starts no color
    * `Phrase.IsWithin`: a phrase that a terminal understands
    * `Phrase.IsListed`: a phrase of the common rules
    * `Rendition.IsWithin`: groups that say such phrases
    * `Style.IsWithin`: a style that a terminal can show
    * `Sgr.IsSpoken`: a style change of phrases that are listed
      and understood

  Main declarations:
    * `Phrase.eq_of_flatMap_groups`
    * `Rendition.isWithin_of_phrases`
    * `Capabilities.isWithin_adaptStyle`
    * `Transition.isSpoken_between`
-/

namespace Redraw

------------------------------------------------------------
-- Phrases
------------------------------------------------------------

/- The parts of a style that have a color. -/
inductive ColorKind
  | foreground
  | background
  | underline
  deriving DecidableEq, Repr

namespace ColorKind

/- The number that starts a color of this kind. -/
def code : ColorKind → Nat
  | .foreground => 38
  | .background => 48
  | .underline => 58

theorem code_injective
    {kind other : ColorKind}
    (h : kind.code = other.code) :
    kind = other := by
  cases kind <;> cases other <;> first | rfl | cases h

end ColorKind

/-
  One thing that a style change says: a number that stands for
  itself, a number with a sub-parameter, or a color of the
  palette or of 24 bits.
-/
inductive Phrase
  | plain (code : Nat)
  | sub (code part : Nat)
  | indexed (kind : ColorKind) (index : Nat)
  | direct (kind : ColorKind) (red green blue : Nat)
  deriving DecidableEq, Repr

namespace Phrase

/- The groups of a phrase. -/
def groups : Phrase → List (List Nat)
  | .plain code => [[code]]
  | .sub code part => [[code, part]]
  | .indexed kind index => [[kind.code], [5], [index]]
  | .direct kind red green blue =>
      [[kind.code], [2], [red], [green], [blue]]

/- A number that starts a color does not stand for itself. -/
def IsWhole : Phrase → Prop
  | .plain code => ∀ kind : ColorKind, code ≠ kind.code
  | _ => True

/-
  Two phrases that start the same groups are one phrase, and
  the groups after them are the same.
-/
theorem groups_append_inj
    {ph other : Phrase}
    (hWhole : ph.IsWhole)
    (hOther : other.IsWhole)
    {later rest : List (List Nat)}
    (hSame : ph.groups ++ later = other.groups ++ rest) :
    ph = other ∧ later = rest := by
  cases ph <;> cases other <;>
    simp only [groups, List.cons_append, List.nil_append,
      List.cons.injEq, and_true, true_and] at hSame
  case plain.plain =>
    exact ⟨by rw [hSame.1], hSame.2⟩
  case plain.indexed => exact absurd hSame.1 (hWhole _)
  case plain.direct => exact absurd hSame.1 (hWhole _)
  case indexed.plain => exact absurd hSame.1.symm (hOther _)
  case direct.plain => exact absurd hSame.1.symm (hOther _)
  case indexed.indexed =>
    exact
      ⟨by rw [ColorKind.code_injective hSame.1, hSame.2.1],
        hSame.2.2⟩
  case direct.direct =>
    rcases hSame with ⟨hKind, hRed, hGreen, hBlue, hLater⟩
    exact
      ⟨by rw [ColorKind.code_injective hKind, hRed, hGreen, hBlue],
        hLater⟩
  all_goals simp_all

/- Groups are said in one way only. -/
theorem eq_of_flatMap_groups
    {phrases others : List Phrase}
    (hWhole : ∀ ph ∈ phrases, ph.IsWhole)
    (hOthers : ∀ ph ∈ others, ph.IsWhole)
    (hSame :
      phrases.flatMap groups = others.flatMap groups) :
    phrases = others := by
  have hSome (ph : Phrase) (later : List Phrase) :
      (ph :: later).flatMap groups ≠ [] := by
    cases ph <;> simp [groups]
  induction phrases generalizing others with
  | nil =>
      cases others with
      | nil => rfl
      | cons other rest => exact absurd hSame.symm (hSome _ _)
  | cons ph later ih =>
      cases others with
      | nil => exact absurd hSame (hSome _ _)
      | cons other rest =>
          rw [List.forall_mem_cons] at hWhole hOthers
          rw [List.flatMap_cons, List.flatMap_cons] at hSame
          rcases groups_append_inj hWhole.1 hOthers.1 hSame with
            ⟨rfl, hLater⟩
          rw [ih hWhole.2 hOthers.2 hLater]

/-
  A phrase that a terminal understands.  Kinds of underlines are
  the only sub-parameters.  A terminal with the system colors
  only has numbers of their own for them, except for underlines.
-/
def IsWithin (caps : Capabilities) : Phrase → Prop
  | .plain code => code = 59 → caps.styledUnderline = true
  | .sub code _ => code = 4 ∧ caps.styledUnderline = true
  | .indexed kind index =>
      (kind = .underline → caps.styledUnderline = true) ∧
        (caps.colorDepth = .ansi16 →
          kind = .underline ∧ index < 16)
  | .direct kind _ _ _ =>
      (kind = .underline → caps.styledUnderline = true) ∧
        caps.colorDepth = .trueColor

end Phrase

------------------------------------------------------------
-- The Common Rules
------------------------------------------------------------

/-
  The numbers that stand for themselves: the reset, attributes
  and underlines, the sixteen system colors on either side, and
  the three default colors.
-/
def Rendition.IsListed (code : Nat) : Prop :=
  code ≤ 9 ∨ (22 ≤ code ∧ code ≤ 25) ∨ (27 ≤ code ∧ code ≤ 37) ∨
    (39 ≤ code ∧ code ≤ 47) ∨ code = 49 ∨ code = 53 ∨ code = 55 ∨
    code = 59 ∨ (90 ≤ code ∧ code ≤ 97) ∨ (100 ≤ code ∧ code ≤ 107)

instance (code : Nat) : Decidable (Rendition.IsListed code) :=
  inferInstanceAs (Decidable (_ ∨ _))

namespace Phrase

/-
  A phrase of the common rules.  Only an underline has a
  sub-parameter, and a color is named by bytes.
-/
def IsListed : Phrase → Prop
  | .plain code => Rendition.IsListed code
  | .sub code part => code = 4 ∧ part ≤ 5
  | .indexed _ index => index < 256
  | .direct _ red green blue => red < 256 ∧ green < 256 ∧ blue < 256

/- No number of the common rules starts a color. -/
theorem IsListed.isWhole
    {ph : Phrase}
    (h : ph.IsListed) :
    ph.IsWhole := by
  cases ph with
  | plain code =>
      intro kind
      simp only [IsListed, Rendition.IsListed] at h
      cases kind <;> simp only [ColorKind.code] <;> omega
  | _ => trivial

/- A phrase of the common rules that a terminal understands. -/
structure IsSpoken
    (caps : Capabilities)
    (ph : Phrase) : Prop where
  listed : ph.IsListed
  within : ph.IsWithin caps

end Phrase

------------------------------------------------------------
-- Groups of Phrases
------------------------------------------------------------

namespace Rendition

/-
  Groups that say only what a terminal understands, however they
  are taken as phrases.
-/
structure IsWithin
    (caps : Capabilities)
    (groups : List (List Nat)) : Prop where
  said :
    ∃ phrases : List Phrase,
      groups = phrases.flatMap Phrase.groups ∧
        ∀ ph ∈ phrases, ph.IsWhole
  within :
    ∀ phrases : List Phrase,
      groups = phrases.flatMap Phrase.groups →
        (∀ ph ∈ phrases, ph.IsWhole) →
          ∀ ph ∈ phrases, ph.IsWithin caps

variable {caps : Capabilities}

/- One way to take them is enough, since there is no other. -/
theorem isWithin_of_phrases
    {phrases : List Phrase}
    (h : ∀ ph ∈ phrases, ph.IsWhole ∧ ph.IsWithin caps) :
    IsWithin caps (phrases.flatMap Phrase.groups) where
  said := ⟨phrases, rfl, fun ph hph => (h ph hph).1⟩
  within := by
    intro others hSame hWhole
    have hPhrases : phrases = others :=
      Phrase.eq_of_flatMap_groups (fun ph hph => (h ph hph).1)
        hWhole hSame
    rw [← hPhrases]
    exact fun ph hph => (h ph hph).2

/- A number that every terminal understands. -/
def IsCommon (code : Nat) : Prop :=
  ¬ (code = 38 ∨ code = 48 ∨ code = 58 ∨ code = 59)

instance (code : Nat) : Decidable (IsCommon code) :=
  inferInstanceAs (Decidable (¬ _))

/- A number that stands for itself to every terminal. -/
def IsPlain (code : Nat) : Prop :=
  IsListed code ∧ IsCommon code

instance (code : Nat) : Decidable (IsPlain code) :=
  inferInstanceAs (Decidable (_ ∧ _))

end Rendition

------------------------------------------------------------
-- Styles
------------------------------------------------------------

/- A color that a terminal has. -/
def Color.IsWithin (caps : Capabilities) : Color → Prop
  | .default => True
  | .indexed i => caps.colorDepth = .ansi16 → i.toNat < 16
  | .direct _ => caps.colorDepth = .trueColor

/- A style that a terminal can show, its underline apart. -/
structure Style.IsWithin
    (caps : Capabilities)
    (s : Style) : Prop where
  fg : s.fg.IsWithin caps
  bg : s.bg.IsWithin caps
  underlineColor : s.underlineColor.IsWithin caps
  plain : caps.styledUnderline = false → s.underlineColor = .default

namespace Palette

theorem cheapest_mem
    {α : Type}
    (cost : α → Nat)
    (best : α)
    (as : List α) :
    cheapest cost best as ∈ best :: as := by
  induction as generalizing best with
  | nil => simp [cheapest]
  | cons a as ih =>
      rw [cheapest]
      split
      · exact List.mem_cons_of_mem _ (ih a)
      · rcases List.mem_cons.mp (ih best) with hBest | hLater
        · rw [hBest]
          exact List.mem_cons_self
        · exact List.mem_cons_of_mem _ (List.mem_cons_of_mem _ hLater)

/- The nearest system color is a system color. -/
theorem nearest16_lt
    (c : Rgb) :
    (nearest16 c).toNat < 16 := by
  have hSystem :
      ∀ i ∈ ([0, 1, 2, 3, 4, 5, 6, 7, 8, 9, 10, 11, 12, 13, 14,
          15] : List UInt8), i.toNat < 16 := by
    decide +kernel
  exact hSystem _ (cheapest_mem _ _ _)

end Palette

namespace Capabilities

/- The nearest color is one that the terminal has. -/
theorem isWithin_adaptColor
    (caps : Capabilities)
    (c : Color) :
    (caps.adaptColor c).IsWithin caps := by
  cases hDepth : caps.colorDepth with
  | trueColor =>
      cases c <;> simp [adaptColor, Color.IsWithin, hDepth]
  | indexed256 =>
      cases c <;>
        simp [adaptColor, Color.toIndexed256, Color.IsWithin,
          hDepth]
  | ansi16 =>
      cases c with
      | default =>
          simp [adaptColor, Color.toAnsi16, Color.IsWithin, hDepth]
      | direct rgb =>
          simp [adaptColor, Color.toAnsi16, Color.IsWithin, hDepth,
            Palette.nearest16_lt]
      | indexed i =>
          simp only [adaptColor, Color.toAnsi16, hDepth]
          split
          · rename_i hSmall
            intro _
            exact UInt8.lt_iff_toNat_lt.mp hSmall
          · intro _
            exact Palette.nearest16_lt _

/- The nearest style is one that the terminal can show. -/
theorem isWithin_adaptStyle
    (caps : Capabilities)
    (s : Style) :
    (caps.adaptStyle s).IsWithin caps where
  fg := caps.isWithin_adaptColor s.fg
  bg := caps.isWithin_adaptColor s.bg
  underlineColor := by
    simp only [adaptStyle]
    split
    · exact caps.isWithin_adaptColor s.underlineColor
    · trivial
  plain := by
    intro hPlain
    simp [adaptStyle, hPlain]

theorem isWithin_default
    (caps : Capabilities) :
    Style.default.IsWithin caps := by
  rw [← caps.adaptStyle_default]
  exact caps.isWithin_adaptStyle .default

end Capabilities

------------------------------------------------------------
-- Style Changes
------------------------------------------------------------

namespace Sgr

/- A style change that says only what a terminal understands. -/
def IsWithin
    (caps : Capabilities)
    (sgr : Sgr) : Prop :=
  Rendition.IsWithin caps sgr.groups

/- A style change that says such phrases of the common rules. -/
def IsSpoken
    (caps : Capabilities)
    (sgr : Sgr) : Prop :=
  ∃ phrases : List Phrase,
    sgr.groups = phrases.flatMap Phrase.groups ∧
      ∀ ph ∈ phrases, ph.IsSpoken caps

variable {caps : Capabilities} {sgr : Sgr}

theorem IsSpoken.isWithin
    (h : sgr.IsSpoken caps) :
    sgr.IsWithin caps := by
  rcases h with ⟨phrases, hPhrases, hAll⟩
  rw [IsWithin, hPhrases]
  apply Rendition.isWithin_of_phrases
  intro ph hph
  exact ⟨(hAll ph hph).listed.isWhole, (hAll ph hph).within⟩

theorem isSpoken_empty
    (caps : Capabilities) :
    Sgr.empty.IsSpoken caps :=
  ⟨[], rfl, List.forall_mem_nil _⟩

/- One more phrase. -/
theorem IsSpoken.say
    (h : sgr.IsSpoken caps)
    {params : List SgrParam}
    (ph : Phrase)
    (hSaid : params.map SgrParam.group = ph.groups)
    (hSpoken : ph.IsSpoken caps) :
    (sgr.append params).IsSpoken caps := by
  rcases h with ⟨phrases, hPhrases, hAll⟩
  refine ⟨phrases ++ [ph], ?_, ?_⟩
  · simp only [groups] at hPhrases
    simp [groups, append, hPhrases, hSaid]
  · intro other hOther
    rcases List.mem_append.mp hOther with hOld | hNew
    · exact hAll other hOld
    · rw [List.mem_singleton.mp hNew]
      exact hSpoken

theorem IsSpoken.push
    (h : sgr.IsSpoken caps)
    {n : Nat}
    (hn : Rendition.IsPlain n) :
    (sgr.push n).IsSpoken caps := by
  refine h.say (.plain n) rfl ⟨hn.1, fun hDefault => ?_⟩
  exact absurd (by simp [hDefault]) hn.2

theorem IsSpoken.pushAttrs
    (h : sgr.IsSpoken caps)
    (attrs : Attrs) :
    (sgr.pushAttrs attrs).IsSpoken caps := by
  unfold Sgr.pushAttrs
  induction attrs.toList generalizing sgr with
  | nil => simpa [append] using h
  | cons a attrs ih =>
      have hFirst : (sgr.push (attrCode a)).IsSpoken caps :=
        h.push (by cases a <;> decide)
      simpa [Sgr.push, append] using ih hFirst

/- Kinds of underlines are said to terminals that have them. -/
theorem IsSpoken.pushUnderline
    (h : sgr.IsSpoken caps)
    (u : Underline) :
    (sgr.pushUnderline u caps.styledUnderline).IsSpoken caps := by
  have hStraight : (sgr.push 4).IsSpoken caps :=
    h.push (by decide)
  have hVariant (n : Nat) (hn : n ≤ 5) :
      (if caps.styledUnderline = true then sgr.append [.sub 4 n]
        else sgr.push 4).IsSpoken caps := by
    split
    · rename_i hStyled
      exact h.say (.sub 4 n) rfl ⟨⟨rfl, hn⟩, rfl, hStyled⟩
    · exact hStraight
  cases u with
  | none => exact h.push (by decide)
  | straight => exact hStraight
  | double => exact hVariant 2 (by decide)
  | curly => exact hVariant 3 (by decide)
  | dotted => exact hVariant 4 (by decide)
  | dashed => exact hVariant 5 (by decide)

/- A color of the palette. -/
theorem IsSpoken.sayIndexed
    (h : sgr.IsSpoken caps)
    (kind : ColorKind)
    {i : UInt8}
    (hStyled : kind = .underline → caps.styledUnderline = true)
    (hSystem :
      caps.colorDepth = .ansi16 →
        kind = .underline ∧ i.toNat < 16) :
    (sgr.append
        [.code kind.code, .code 5, .code i.toNat]).IsSpoken caps :=
  h.say (.indexed kind i.toNat) rfl ⟨i.toNat_lt, hStyled, hSystem⟩

/- A color of 24 bits. -/
theorem IsSpoken.sayDirect
    (h : sgr.IsSpoken caps)
    (kind : ColorKind)
    {rgb : Rgb}
    (hStyled : kind = .underline → caps.styledUnderline = true)
    (hDepth : caps.colorDepth = .trueColor) :
    (sgr.append
        [.code kind.code, .code 2, .code rgb.red.toNat,
          .code rgb.green.toNat, .code rgb.blue.toNat]).IsSpoken
      caps :=
  h.say
    (.direct kind rgb.red.toNat rgb.green.toNat rgb.blue.toNat) rfl
    ⟨⟨rgb.red.toNat_lt, rgb.green.toNat_lt, rgb.blue.toNat_lt⟩,
      hStyled, hDepth⟩

/- The color of a text or of the space behind it. -/
theorem IsSpoken.pushColor
    (h : sgr.IsSpoken caps)
    {c : Color}
    (hColor : c.IsWithin caps)
    {base bright : Nat}
    (kind : ColorKind)
    (hKind : kind ≠ .underline)
    (hBase : ∀ n < 8, Rendition.IsPlain (base + n))
    (hBright : ∀ n < 8, Rendition.IsPlain (bright + n)) :
    (sgr.append (colorParams c base bright kind.code)).IsSpoken
      caps := by
  have hOther : kind = .underline → caps.styledUnderline = true :=
    fun hSame => absurd hSame hKind
  cases c with
  | default =>
      refine h.push (n := kind.code + 1) ?_
      cases kind with
      | foreground => decide
      | background => decide
      | underline => exact absurd rfl hKind
  | indexed i =>
      by_cases hDim : i.toNat < 8
      · simp only [colorParams, hDim, if_true]
        exact h.push (hBase _ hDim)
      · by_cases hLit : i.toNat < 16
        · simp only [colorParams, hDim, hLit, if_true, if_false]
          have hBit := hBright (i.toNat - 8) (by omega)
          rw [← Nat.add_sub_assoc (by omega)] at hBit
          exact h.push hBit
        · simp only [colorParams, hDim, hLit, if_false]
          refine h.sayIndexed kind hOther fun hDepth => ?_
          exact absurd (hColor hDepth) hLit
  | direct rgb => exact h.sayDirect kind hOther hColor

theorem IsSpoken.pushFg
    (h : sgr.IsSpoken caps)
    {c : Color}
    (hColor : c.IsWithin caps) :
    (sgr.pushFg c).IsSpoken caps :=
  h.pushColor hColor .foreground (by decide) (by decide) (by decide)

theorem IsSpoken.pushBg
    (h : sgr.IsSpoken caps)
    {c : Color}
    (hColor : c.IsWithin caps) :
    (sgr.pushBg c).IsSpoken caps :=
  h.pushColor hColor .background (by decide) (by decide) (by decide)

/- The color of an underline, if the terminal has such colors. -/
theorem IsSpoken.pushUnderlineColor
    (h : sgr.IsSpoken caps)
    {c : Color}
    (hColor : c.IsWithin caps)
    (hStyled : caps.styledUnderline = true) :
    (sgr.pushUnderlineColor c).IsSpoken caps := by
  cases c with
  | default =>
      have hListed : Rendition.IsListed 59 := by decide
      exact h.say (.plain 59) rfl ⟨hListed, fun _ => hStyled⟩
  | indexed i =>
      exact
        h.sayIndexed .underline (fun _ => hStyled)
          fun hDepth => ⟨rfl, hColor hDepth⟩
  | direct rgb =>
      exact h.sayDirect .underline (fun _ => hStyled) hColor

end Sgr

------------------------------------------------------------
-- Transitions
------------------------------------------------------------

namespace Transition

variable {caps : Capabilities} {sgr : Sgr}

theorem isSpoken_pushPair
    (h : sgr.IsSpoken caps)
    (a b : Attr)
    (off : Nat)
    (hOff : Rendition.IsPlain off)
    (source target : Attrs) :
    (pushPair a b off source target sgr).IsSpoken caps := by
  unfold pushPair
  simp only
  split
  · exact (h.push hOff).pushAttrs _
  · exact h.pushAttrs _

theorem isSpoken_pushToggle
    (h : sgr.IsSpoken caps)
    (a : Attr)
    (off : Nat)
    (hOff : Rendition.IsPlain off)
    (source target : Attrs) :
    (pushToggle a off source target sgr).IsSpoken caps := by
  unfold pushToggle
  split
  · exact h.push hOff
  · split
    · exact h.push (by cases a <;> decide)
    · exact h

theorem isSpoken_pushAttrs
    (caps : Capabilities)
    (source target : Attrs) :
    (pushAttrs source target .empty).IsSpoken caps := by
  have hBold :=
    isSpoken_pushPair (Sgr.isSpoken_empty caps) .bold .faint 22
      (by decide) source target
  have hBlink :=
    isSpoken_pushPair hBold .blink .rapidBlink 25 (by decide)
      source target
  have hItalic :=
    isSpoken_pushToggle hBlink .italic 23 (by decide) source target
  have hReverse :=
    isSpoken_pushToggle hItalic .reverse 27 (by decide) source target
  have hInvisible :=
    isSpoken_pushToggle hReverse .invisible 28 (by decide)
      source target
  have hStruck :=
    isSpoken_pushToggle hInvisible .strikethrough 29 (by decide)
      source target
  exact
    isSpoken_pushToggle hStruck .overline 55 (by decide)
      source target

/- A part that is said only where it is needed. -/
theorem isSpoken_unless
    (skip : Prop)
    [Decidable skip]
    {said : Sgr}
    (h : sgr.IsSpoken caps)
    (hSaid : ¬ skip → said.IsSpoken caps) :
    (if skip then sgr else said).IsSpoken caps := by
  split
  · exact h
  · rename_i hNeeded
    exact hSaid hNeeded

/-
  Saying what differs.  The color of underlines differs only on
  a terminal that has such colors: elsewhere both are default.
-/
theorem isSpoken_incremental
    {source target : Style}
    (hSource : source.IsWithin caps)
    (hTarget : target.IsWithin caps) :
    (incremental source target caps.styledUnderline).IsSpoken
      caps := by
  have hAttrs := isSpoken_pushAttrs caps source.attrs target.attrs
  have hUnderline :=
    isSpoken_unless (source.underline = target.underline) hAttrs
      fun _ => hAttrs.pushUnderline target.underline
  have hFg :=
    isSpoken_unless (source.fg = target.fg) hUnderline
      fun _ => hUnderline.pushFg hTarget.fg
  have hBg :=
    isSpoken_unless (source.bg = target.bg) hFg
      fun _ => hFg.pushBg hTarget.bg
  refine
    isSpoken_unless (source.underlineColor = target.underlineColor)
      hBg fun hDiffer =>
        hBg.pushUnderlineColor hTarget.underlineColor ?_
  rw [← Bool.not_eq_false]
  intro hPlain
  exact
    hDiffer
      ((hSource.plain hPlain).trans (hTarget.plain hPlain).symm)

/- Resetting everything and saying the whole style. -/
theorem isSpoken_fromReset
    {target : Style}
    (hTarget : target.IsWithin caps) :
    (fromReset target caps.styledUnderline).IsSpoken caps := by
  have hAttrs :
      ((Sgr.empty.push 0).pushAttrs target.attrs).IsSpoken caps :=
    ((Sgr.isSpoken_empty caps).push (by decide)).pushAttrs _
  have hUnderline :
      (if target.underline.isUnderlined then
          ((Sgr.empty.push 0).pushAttrs target.attrs).pushUnderline
            target.underline caps.styledUnderline
        else (Sgr.empty.push 0).pushAttrs target.attrs).IsSpoken
        caps := by
    split
    · exact hAttrs.pushUnderline _
    · exact hAttrs
  have hFg :=
    isSpoken_unless (target.fg.isDefault = true) hUnderline
      fun _ => hUnderline.pushFg hTarget.fg
  have hBg :=
    isSpoken_unless (target.bg.isDefault = true) hFg
      fun _ => hFg.pushBg hTarget.bg
  refine
    isSpoken_unless (target.underlineColor.isDefault = true) hBg
      fun hColored =>
        hBg.pushUnderlineColor hTarget.underlineColor ?_
  rw [← Bool.not_eq_false]
  intro hPlain
  exact hColored (decide_eq_true (hTarget.plain hPlain))

/- The shorter way says nothing else. -/
theorem isSpoken_between
    {source target : Style}
    (hSource : source.IsWithin caps)
    (hTarget : target.IsWithin caps) :
    (between source target caps.styledUnderline).IsSpoken caps := by
  unfold between
  split
  · exact Sgr.isSpoken_empty caps
  · simp only
    split
    · exact isSpoken_fromReset hTarget
    · exact isSpoken_incremental hSource hTarget

/- Red with a blue curl under it, on the poorest terminal. -/
example :
    (between .default
        (Capabilities.minimal.adaptStyle
          { fg := .direct ⟨250, 10, 10⟩
            underline := .curly
            underlineColor := .direct ⟨0, 0, 255⟩ })
        false).params =
      [.code 4, .code 91] := by
  decide +kernel

end Transition

end Redraw
