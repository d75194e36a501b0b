import Redraw.Capabilities
import Redraw.Frame.Transition
import Redraw.Proofs.Screen.Obedience
import Mathlib.Tactic.IntervalCases

/-
  Restyling: a terminal that reads a transition has the style
  that the transition was made for.

  Key definitions include:
    * `Rendition.Leads`: what reading some groups does to a
      style, whatever follows them
    * `Sgr.Leads`: the same for the parameters of a sequence
    * `Attrs.blend`: attributes of which some have been changed

  Main declarations:
    * `Transition.leads_between`
    * `Screen.restyle_of_leads`
-/

namespace Redraw

------------------------------------------------------------
-- Reading Groups
------------------------------------------------------------

namespace Rendition

/-
  Reading some groups leads from one style to another, and what
  follows them is read from there.
-/
def Leads
    (groups : List (List Nat))
    (s t : Style) : Prop :=
  ∀ (later : List (List Nat)) (fuel : Nat),
    (groups ++ later).length ≤ fuel →
      ∃ left, later.length ≤ left ∧
        readFrom? fuel (groups ++ later) s =
          readFrom? left later t

theorem leads_nil
    (s : Style) :
    Leads [] s s :=
  fun _ fuel h => ⟨fuel, h, rfl⟩

theorem Leads.append
    {groups more : List (List Nat)}
    {s t u : Style}
    (h : Leads groups s t)
    (hMore : Leads more t u) :
    Leads (groups ++ more) s u := by
  intro later fuel hFuel
  rw [List.append_assoc] at hFuel ⊢
  rcases h (more ++ later) fuel hFuel with ⟨middle, hMiddle, hRead⟩
  rcases hMore later middle hMiddle with ⟨left, hLeft, hRest⟩
  exact ⟨left, hLeft, hRead.trans hRest⟩

/- Groups that are all there is are read to their end. -/
theorem Leads.read
    {groups : List (List Nat)}
    {s t : Style}
    (h : Leads groups s t) :
    readFrom? groups.length groups s = some t := by
  rcases h [] groups.length (by simp) with ⟨left, _, hRead⟩
  rw [List.append_nil] at hRead
  rw [hRead]
  cases left <;> rfl

/- A group that stands for itself. -/
theorem leads_single
    {group : List Nat}
    {s t : Style}
    (hCode :
      ¬ (group.headD 0 = 38 ∨ group.headD 0 = 48
        ∨ group.headD 0 = 58))
    (h : one? (group.headD 0) group.tail s = some t) :
    Leads [group] s t := by
  intro later fuel hFuel
  cases fuel with
  | zero => simp at hFuel
  | succ left =>
      refine ⟨left, by simpa using hFuel, ?_⟩
      simp only [List.singleton_append, readFrom?, if_neg hCode, h,
        Option.bind_some]

/- Groups that name a color of the palette. -/
theorem leads_indexed
    {kind : Nat}
    (hKind : kind = 38 ∨ kind = 48 ∨ kind = 58)
    (n : Nat)
    (s : Style) :
    Leads [[kind], [5], [n]] s
      (withColor s kind (.indexed (toByte n))) := by
  intro later fuel hFuel
  cases fuel with
  | zero => simp at hFuel
  | succ left =>
      refine ⟨left, ?_, ?_⟩
      · simp only [List.length_append, List.length_cons,
          List.length_nil] at hFuel
        omega
      · simp [readFrom?, hKind, extendedColor?, colorGroups?]

/- Groups that name a color of 24 bits. -/
theorem leads_direct
    {kind : Nat}
    (hKind : kind = 38 ∨ kind = 48 ∨ kind = 58)
    (r g b : Nat)
    (s : Style) :
    Leads [[kind], [2], [r], [g], [b]] s
      (withColor s kind (direct r g b)) := by
  intro later fuel hFuel
  cases fuel with
  | zero => simp at hFuel
  | succ left =>
      refine ⟨left, ?_, ?_⟩
      · simp only [List.length_append, List.length_cons,
          List.length_nil] at hFuel
        omega
      · simp [readFrom?, hKind, extendedColor?, colorGroups?]

theorem toByte_toNat
    (b : UInt8) :
    toByte b.toNat = b := by
  have hSmall : b.toNat < 256 := b.toNat_lt
  unfold toByte
  rw [Nat.min_eq_left (by omega), UInt8.ofNat_toNat]

------------------------------------------------------------
-- Single Parameters
------------------------------------------------------------

theorem one?_attrCode
    (a : Attr)
    (s : Style) :
    one? (Sgr.attrCode a) [] s = some (withAttr s a true) := by
  cases a <;> rfl

/-
  The numbers that paint a part of a style: eight dim colors
  from `base`, eight bright ones from `bright`, and the default
  and all other colors after `extended`.
-/
structure Paints
    (base bright extended : Nat)
    (paint : Style → Color → Style) : Prop where
  small : base ≤ 100 ∧ bright ≤ 100
  kind : extended = 38 ∨ extended = 48
  default_ : ∀ s, Leads [[extended + 1]] s (paint s .default)
  dim : ∀ n < 8, ∀ s, Leads [[base + n]] s (paint s (system n))
  bright_ :
    ∀ n < 8, ∀ s,
      Leads [[bright + n]] s (paint s (system (8 + n)))
  other : ∀ s c, withColor s extended c = paint s c

theorem paints_foreground :
    Paints 30 90 38 fun s c => { s with fg := c } where
  small := by decide
  kind := Or.inl rfl
  default_ := fun s => leads_single (by decide) rfl
  dim := by
    intro n hn s
    apply leads_single (by simp; omega)
    interval_cases n <;> rfl
  bright_ := by
    intro n hn s
    apply leads_single (by simp; omega)
    interval_cases n <;> rfl
  other := fun s c => rfl

theorem paints_background :
    Paints 40 100 48 fun s c => { s with bg := c } where
  small := by decide
  kind := Or.inr rfl
  default_ := fun s => leads_single (by decide) rfl
  dim := by
    intro n hn s
    apply leads_single (by simp; omega)
    interval_cases n <;> rfl
  bright_ := by
    intro n hn s
    apply leads_single (by simp; omega)
    interval_cases n <;> rfl
  other := fun s c => rfl

end Rendition

------------------------------------------------------------
-- Blending Attributes
------------------------------------------------------------

namespace Attrs

/- The attributes of `t` where they are done, else those of `s`. -/
def blend
    (done : Attr → Bool)
    (s t : Attrs) : Attrs :=
  filter fun a => if done a then t.has a else s.has a

@[simp] theorem has_blend
    (done : Attr → Bool)
    (s t : Attrs)
    (a : Attr) :
    (blend done s t).has a =
      if done a then t.has a else s.has a :=
  has_filter _ a

@[simp] theorem has_set
    (s : Attrs)
    (a b : Attr)
    (on : Bool) :
    (s.set a on).has b = if b = a then on else s.has b :=
  has_filter _ b

theorem blend_none
    (s t : Attrs) :
    blend (fun _ => false) s t = s :=
  ext_has fun a => by simp

theorem blend_all
    {done : Attr → Bool}
    (h : ∀ a, done a = true)
    (s t : Attrs) :
    blend done s t = t :=
  ext_has fun a => by simp [h a]

/- The attributes that are in one of two sets. -/
def join (s t : Attrs) : Attrs :=
  filter fun a => s.has a || t.has a

@[simp] theorem has_join
    (s t : Attrs)
    (a : Attr) :
    (join s t).has a = (s.has a || t.has a) :=
  has_filter _ a

theorem join_none
    (s : Attrs) :
    join none s = s :=
  ext_has fun a => by
    rw [has_join]
    cases a <;> rfl

theorem mem_toList_iff
    (s : Attrs)
    (a : Attr) :
    a ∈ s.toList ↔ s.has a = true := by
  have hAll : a ∈ Attr.all := by
    cases a <;> decide
  simp [toList, hAll]

/- Turning attributes on one after another. -/
theorem has_foldl_set
    (attrs : List Attr)
    (s : Attrs)
    (b : Attr) :
    (attrs.foldl (fun t a => t.set a true) s).has b =
      (s.has b || decide (b ∈ attrs)) := by
  induction attrs generalizing s with
  | nil => simp
  | cons a attrs ih =>
      rw [List.foldl_cons, ih, has_set]
      by_cases h : b = a <;> simp [h]

end Attrs

------------------------------------------------------------
-- Reading Style Changes
------------------------------------------------------------

namespace Sgr

/-
  The parameters of a sequence lead from one style to another,
  and a terminal can take all of them.
-/
structure Leads
    (sgr : Sgr)
    (s t : Style) : Prop where
  readable : sgr.IsReadable
  leads : Rendition.Leads sgr.groups s t

theorem leads_empty
    (s : Style) :
    Leads .empty s s :=
  ⟨by simp [IsReadable, Sgr.empty], Rendition.leads_nil s⟩

theorem Leads.append
    {sgr : Sgr}
    {s t u : Style}
    (h : sgr.Leads s t)
    {params : List SgrParam}
    (hReadable : ∀ p ∈ params, p.IsReadable)
    (hLeads :
      Rendition.Leads (params.map SgrParam.group) t u) :
    (sgr.append params).Leads s u := by
  constructor
  · intro p hp
    rcases List.mem_append.mp hp with hOld | hNew
    · exact h.readable p hOld
    · exact hReadable p hNew
  · have hGroups :
        (sgr.append params).groups =
          sgr.groups ++ params.map SgrParam.group := by
      simp [groups, Sgr.append]
    rw [hGroups]
    exact h.leads.append hLeads

/- One more plain parameter. -/
theorem Leads.push
    {sgr : Sgr}
    {s t u : Style}
    (h : sgr.Leads s t)
    {n : Nat}
    (hn : n ≤ Parser.maxParameter)
    (hKind : ¬ (n = 38 ∨ n = 48 ∨ n = 58))
    (hOne : Rendition.one? n [] t = some u) :
    (sgr.push n).Leads s u := by
  refine h.append ?_ (Rendition.leads_single hKind hOne)
  intro p hp
  rw [List.mem_singleton.mp hp]
  exact hn

/- Turning on the attributes of a set. -/
theorem Leads.pushAttrs
    {sgr : Sgr}
    {s t : Style}
    (h : sgr.Leads s t)
    (attrs : Attrs) :
    (sgr.pushAttrs attrs).Leads s
      { t with attrs := t.attrs.join attrs } := by
  have hList (l : List Attr) (u : Style) :
      Rendition.Leads (l.map fun a => [attrCode a]) u
        { u with
          attrs := l.foldl (fun x a => x.set a true) u.attrs } := by
    induction l generalizing u with
    | nil => exact Rendition.leads_nil u
    | cons a l ih =>
        have hHead :
            Rendition.Leads [[attrCode a]] u
              (Rendition.withAttr u a true) :=
          Rendition.leads_single (by cases a <;> decide)
            (Rendition.one?_attrCode a u)
        exact hHead.append (ih _)
  have hJoin :
      attrs.toList.foldl (fun x a => x.set a true) t.attrs =
        t.attrs.join attrs :=
    Attrs.ext_has fun a => by
      rw [Attrs.has_foldl_set, Attrs.has_join]
      congr 1
      rw [Bool.eq_iff_iff, decide_eq_true_iff, Attrs.mem_toList_iff]
  refine h.append ?_ ?_
  · intro p hp
    rcases List.mem_map.mp hp with ⟨a, _, rfl⟩
    cases a <;> decide
  · have := hList attrs.toList t
    rw [hJoin] at this
    simpa [List.map_map, Function.comp_def, SgrParam.group]
      using this

/- Setting the underline that a terminal can show. -/
theorem Leads.pushUnderline
    {sgr : Sgr}
    {s t : Style}
    (h : sgr.Leads s t)
    {u : Underline}
    {styled : Bool}
    (hPlain : styled = false → u = .none ∨ u = .straight) :
    (sgr.pushUnderline u styled).Leads s
      { t with underline := u } := by
  have hSub (v : Underline) :
      Rendition.Leads [[4, v.param]] t
        { t with underline := v } :=
    Rendition.leads_single (by simp) (by cases v <;> rfl)
  have hReadable (v : Underline) :
      ∀ p ∈ [SgrParam.sub 4 v.param], p.IsReadable := by
    intro p hp
    rw [List.mem_singleton.mp hp]
    cases v <;> decide
  cases styled with
  | false =>
      rcases hPlain rfl with rfl | rfl
      · exact h.push (by decide) (by decide) rfl
      · exact h.push (by decide) (by decide) rfl
  | true =>
      cases u with
      | none => exact h.push (by decide) (by decide) rfl
      | straight => exact h.push (by decide) (by decide) rfl
      | double => exact h.append (hReadable _) (hSub _)
      | curly => exact h.append (hReadable _) (hSub _)
      | dotted => exact h.append (hReadable _) (hSub _)
      | dashed => exact h.append (hReadable _) (hSub _)

/- Parameters that say a color of the palette. -/
theorem Leads.appendIndexed
    {sgr : Sgr}
    {s t : Style}
    (h : sgr.Leads s t)
    {kind : Nat}
    (hKind : kind = 38 ∨ kind = 48 ∨ kind = 58)
    (i : UInt8) :
    (sgr.append
        [.code kind, .code 5, .code i.toNat]).Leads s
      (Rendition.withColor t kind (.indexed i)) := by
  have hSmall : i.toNat < 256 := i.toNat_lt
  have hLeads := Rendition.leads_indexed hKind i.toNat t
  rw [Rendition.toByte_toNat] at hLeads
  refine h.append ?_ hLeads
  intro p hp
  simp only [List.mem_cons, List.not_mem_nil, or_false] at hp
  rcases hp with rfl | rfl | rfl <;>
    simp only [SgrParam.IsReadable, Parser.maxParameter] <;>
    omega

/- Parameters that say a color of 24 bits. -/
theorem Leads.appendDirect
    {sgr : Sgr}
    {s t : Style}
    (h : sgr.Leads s t)
    {kind : Nat}
    (hKind : kind = 38 ∨ kind = 48 ∨ kind = 58)
    (rgb : Rgb) :
    (sgr.append
        [.code kind, .code 2, .code rgb.red.toNat,
          .code rgb.green.toNat, .code rgb.blue.toNat]).Leads s
      (Rendition.withColor t kind (.direct rgb)) := by
  have hRed : rgb.red.toNat < 256 := rgb.red.toNat_lt
  have hGreen : rgb.green.toNat < 256 := rgb.green.toNat_lt
  have hBlue : rgb.blue.toNat < 256 := rgb.blue.toNat_lt
  have hLeads :=
    Rendition.leads_direct hKind rgb.red.toNat rgb.green.toNat
      rgb.blue.toNat t
  simp only [Rendition.direct, Rendition.toByte_toNat] at hLeads
  refine h.append ?_ hLeads
  intro p hp
  simp only [List.mem_cons, List.not_mem_nil, or_false] at hp
  rcases hp with rfl | rfl | rfl | rfl | rfl <;>
    simp only [SgrParam.IsReadable, Parser.maxParameter] <;>
    omega

/- The parameters of a color are read as that color. -/
theorem Leads.pushColor
    {sgr : Sgr}
    {s t : Style}
    (h : sgr.Leads s t)
    {base bright extended : Nat}
    {paint : Style → Color → Style}
    (hPaints : Rendition.Paints base bright extended paint)
    (c : Color) :
    (sgr.append (colorParams c base bright extended)).Leads s
      (paint t c) := by
  rcases hPaints.small with ⟨hBase, hBright⟩
  have hExtended :
      extended = 38 ∨ extended = 48 ∨ extended = 58 := by
    rcases hPaints.kind with hKind | hKind <;> simp [hKind]
  have hReadable {n : Nat} (hn : n ≤ 255) :
      ∀ p ∈ [SgrParam.code n], p.IsReadable := by
    intro p hp
    rw [List.mem_singleton.mp hp]
    exact Nat.le_trans hn (by decide)
  cases c with
  | default =>
      exact h.append (hReadable (by omega)) (hPaints.default_ t)
  | indexed i =>
      have hSystem : Rendition.system i.toNat = .indexed i := by
        simp [Rendition.system]
      by_cases hDim : i.toNat < 8
      · have hLeads := hPaints.dim i.toNat hDim t
        rw [hSystem] at hLeads
        simp only [colorParams, hDim, if_true]
        exact h.append (hReadable (by omega)) hLeads
      · by_cases hLit : i.toNat < 16
        · have hLeads :=
            hPaints.bright_ (i.toNat - 8) (by omega) t
          rw [show 8 + (i.toNat - 8) = i.toNat by omega, hSystem,
            show bright + (i.toNat - 8) = bright + i.toNat - 8 by
              omega] at hLeads
          simp only [colorParams, hDim, hLit, if_true, if_false]
          exact h.append (hReadable (by omega)) hLeads
        · simp only [colorParams, hDim, hLit, if_false]
          rw [← hPaints.other]
          exact h.appendIndexed hExtended i
  | direct rgb =>
      rw [← hPaints.other]
      exact h.appendDirect hExtended rgb

theorem Leads.pushFg
    {sgr : Sgr}
    {s t : Style}
    (h : sgr.Leads s t)
    (c : Color) :
    (sgr.pushFg c).Leads s { t with fg := c } :=
  h.pushColor Rendition.paints_foreground c

theorem Leads.pushBg
    {sgr : Sgr}
    {s t : Style}
    (h : sgr.Leads s t)
    (c : Color) :
    (sgr.pushBg c).Leads s { t with bg := c } :=
  h.pushColor Rendition.paints_background c

/- The color of an underline has no numbers of its own. -/
theorem Leads.pushUnderlineColor
    {sgr : Sgr}
    {s t : Style}
    (h : sgr.Leads s t)
    (c : Color) :
    (sgr.pushUnderlineColor c).Leads s
      { t with underlineColor := c } := by
  cases c with
  | default => exact h.push (by decide) (by decide) rfl
  | indexed i => exact h.appendIndexed (by decide) i
  | direct rgb => exact h.appendDirect (by decide) rgb

end Sgr

------------------------------------------------------------
-- Transitions
------------------------------------------------------------

namespace Transition

/- Two attributes that are turned off together. -/
theorem leads_pushPair
    {a b : Attr}
    {off : Nat}
    {done : Attr → Bool}
    {source target : Attrs}
    {sgr : Sgr}
    {s t : Style}
    (h : sgr.Leads s (t.withAttrs (.blend done source target)))
    (ha : done a = false)
    (hb : done b = false)
    (hOff : off ≤ Parser.maxParameter)
    (hKind : ¬ (off = 38 ∨ off = 48 ∨ off = 58))
    (hOne :
      ∀ u, Rendition.one? off [] u =
        some (Rendition.withAttr
          (Rendition.withAttr u a false) b false)) :
    (pushPair a b off source target sgr).Leads s
      (t.withAttrs
        (.blend (fun x => done x || x = a || x = b)
          source target)) := by
  unfold pushPair
  simp only
  split
  · have hLeads :=
      (h.push hOff hKind (hOne _)).pushAttrs
        (.filter fun x => (x = a || x = b) && target.has x)
    have hBlend :
        (((Attrs.blend done source target).set a false).set
            b false).join
            (.filter fun x => (x = a || x = b) && target.has x) =
          .blend (fun x => done x || x = a || x = b)
            source target := by
      refine Attrs.ext_has fun x => ?_
      simp only [Attrs.has_join, Attrs.has_set, Attrs.has_filter,
        Attrs.has_blend]
      by_cases hxb : x = b <;> by_cases hxa : x = a <;>
        simp [hxa, hxb]
    rw [← hBlend]
    exact hLeads
  · rename_i hKept
    have hLeads :=
      h.pushAttrs
        (.filter fun x =>
          (x = a || x = b) && (target.has x && !source.has x))
    have hStay (x : Attr) (hx : x = a ∨ x = b) :
        source.has x = true → target.has x = true := by
      intro hs
      cases ht : target.has x with
      | true => rfl
      | false =>
          rcases hx with rfl | rfl <;> simp [hs, ht] at hKept
    have hBlend :
        (Attrs.blend done source target).join
            (.filter fun x =>
              (x = a || x = b) &&
                (target.has x && !source.has x)) =
          .blend (fun x => done x || x = a || x = b)
            source target := by
      refine Attrs.ext_has fun x => ?_
      simp only [Attrs.has_join, Attrs.has_filter,
        Attrs.has_blend]
      by_cases hx : x = a ∨ x = b
      · have hDone : done x = false := by
          rcases hx with rfl | rfl <;> assumption
        have := hStay x hx
        cases hs : source.has x <;> cases ht : target.has x <;>
          simp_all
      · simp [not_or.mp hx]
    rw [← hBlend]
    exact hLeads

/- An attribute that is turned off by itself. -/
theorem leads_pushToggle
    {a : Attr}
    {off : Nat}
    {done : Attr → Bool}
    {source target : Attrs}
    {sgr : Sgr}
    {s t : Style}
    (h : sgr.Leads s (t.withAttrs (.blend done source target)))
    (ha : done a = false)
    (hOff : off ≤ Parser.maxParameter)
    (hKind : ¬ (off = 38 ∨ off = 48 ∨ off = 58))
    (hOne :
      ∀ u, Rendition.one? off [] u =
        some (Rendition.withAttr u a false)) :
    (pushToggle a off source target sgr).Leads s
      (t.withAttrs
        (.blend (fun x => done x || x = a) source target)) := by
  have hSet (on : Bool) (hOn : on = target.has a) :
      (Attrs.blend done source target).set a on =
        .blend (fun x => done x || x = a) source target := by
    refine Attrs.ext_has fun x => ?_
    simp only [Attrs.has_set, Attrs.has_blend]
    by_cases hxa : x = a <;> simp [hxa, hOn]
  unfold pushToggle
  split
  · rename_i hRemoved
    simp only [Bool.and_eq_true, Bool.not_eq_true'] at hRemoved
    rw [← hSet false hRemoved.2.symm]
    exact h.push hOff hKind (hOne _)
  · split
    · rename_i hAdded
      simp only [Bool.and_eq_true, Bool.not_eq_true'] at hAdded
      rw [← hSet true hAdded.1.symm]
      exact h.push (by cases a <;> decide) (by cases a <;> decide)
        (Rendition.one?_attrCode a _)
    · rename_i hRemoved hAdded
      have hSame : source.has a = target.has a := by
        cases hs : source.has a <;> cases ht : target.has a <;>
          simp_all
      have hBlend :
          Attrs.blend done source target =
            .blend (fun x => done x || x = a) source target := by
        refine Attrs.ext_has fun x => ?_
        simp only [Attrs.has_blend]
        by_cases hxa : x = a <;> simp [hxa, ha, hSame]
      rw [← hBlend]
      exact h

/- The attributes that differ are changed. -/
theorem leads_pushAttrs
    (s : Style)
    (target : Attrs) :
    (pushAttrs s.attrs target .empty).Leads s
      (s.withAttrs target) := by
  have h₀ :
      Sgr.Leads .empty s
        (s.withAttrs
          (.blend (fun _ => false) s.attrs target)) := by
    rw [Attrs.blend_none]
    exact Sgr.leads_empty s
  have h₁ :=
    leads_pushPair (a := .bold) (b := .faint) h₀ rfl rfl
      (show 22 ≤ _ by decide) (by decide) (fun u => rfl)
  have h₂ :=
    leads_pushPair (a := .blink) (b := .rapidBlink) h₁ rfl rfl
      (show 25 ≤ _ by decide) (by decide) (fun u => rfl)
  have h₃ :=
    leads_pushToggle (a := .italic) h₂ rfl
      (show 23 ≤ _ by decide) (by decide) (fun u => rfl)
  have h₄ :=
    leads_pushToggle (a := .reverse) h₃ rfl
      (show 27 ≤ _ by decide) (by decide) (fun u => rfl)
  have h₅ :=
    leads_pushToggle (a := .invisible) h₄ rfl
      (show 28 ≤ _ by decide) (by decide) (fun u => rfl)
  have h₆ :=
    leads_pushToggle (a := .strikethrough) h₅ rfl
      (show 29 ≤ _ by decide) (by decide) (fun u => rfl)
  have h₇ :=
    leads_pushToggle (a := .overline) h₆ rfl
      (show 55 ≤ _ by decide) (by decide) (fun u => rfl)
  rw [Attrs.blend_all (by intro a; cases a <;> rfl)] at h₇
  exact h₇

/- A part that is said only if it is not there already. -/
theorem leads_unless
    (skip : Prop)
    [Decidable skip]
    {sgr said : Sgr}
    {s t u : Style}
    (h : sgr.Leads s t)
    (hSkip : skip → t = u)
    (hSaid : said.Leads s u) :
    (if skip then sgr else said).Leads s u := by
  split
  · rename_i hTrue
    rw [← hSkip hTrue]
    exact h
  · exact hSaid

/- Saying only what differs. -/
theorem leads_incremental
    (source : Style)
    {target : Style}
    {styled : Bool}
    (hPlain :
      styled = false →
        target.underline = .none ∨ target.underline = .straight) :
    (incremental source target styled).Leads source target := by
  rcases target with ⟨fg, bg, attrs, underline, underlineColor⟩
  have h₀ := leads_pushAttrs source attrs
  have h₁ :=
    leads_unless (source.underline = underline) h₀
      (by rintro rfl; rfl) (h₀.pushUnderline hPlain)
  have h₂ :=
    leads_unless (source.fg = fg) h₁
      (by rintro rfl; rfl) (h₁.pushFg fg)
  have h₃ :=
    leads_unless (source.bg = bg) h₂
      (by rintro rfl; rfl) (h₂.pushBg bg)
  exact
    leads_unless (source.underlineColor = underlineColor)
      h₃ (by rintro rfl; rfl)
      (h₃.pushUnderlineColor underlineColor)

/- Resetting everything and saying the whole style. -/
theorem leads_fromReset
    (source : Style)
    {target : Style}
    {styled : Bool}
    (hPlain :
      styled = false →
        target.underline = .none ∨ target.underline = .straight) :
    (fromReset target styled).Leads source target := by
  rcases target with ⟨fg, bg, attrs, underline, underlineColor⟩
  have hDefault (c : Color) (h : c.isDefault = true) :
      Color.default = c :=
    (of_decide_eq_true h).symm
  have hReset :
      (Sgr.empty.push 0).Leads source .default :=
    (Sgr.leads_empty source).push (by decide) (by decide) rfl
  have h₀ :
      ((Sgr.empty.push 0).pushAttrs attrs).Leads source
        ⟨.default, .default, attrs, .none, .default⟩ := by
    have hAttrs := hReset.pushAttrs attrs
    rw [show Style.default.attrs = Attrs.none from rfl,
      Attrs.join_none] at hAttrs
    exact hAttrs
  have h₁ :
      (if underline.isUnderlined then
          ((Sgr.empty.push 0).pushAttrs attrs).pushUnderline
            underline styled
        else (Sgr.empty.push 0).pushAttrs attrs).Leads source
        ⟨.default, .default, attrs, underline, .default⟩ := by
    cases underline with
    | none => exact h₀
    | _ => exact h₀.pushUnderline hPlain
  have h₂ :=
    leads_unless (fg.isDefault = true) h₁
      (fun h => by rw [hDefault fg h]) (h₁.pushFg fg)
  have h₃ :=
    leads_unless (bg.isDefault = true) h₂
      (fun h => by rw [hDefault bg h]) (h₂.pushBg bg)
  exact
    leads_unless (underlineColor.isDefault = true) h₃
      (fun h => by rw [hDefault underlineColor h])
      (h₃.pushUnderlineColor underlineColor)

/- The shorter way leads to the same style. -/
theorem leads_between
    (source : Style)
    {target : Style}
    {styled : Bool}
    (hPlain :
      styled = false →
        target.underline = .none ∨ target.underline = .straight) :
    (between source target styled).Leads source target := by
  unfold between
  split
  · rename_i hSame
    rw [hSame]
    exact Sgr.leads_empty target
  · simp only
    split
    · exact leads_fromReset source hPlain
    · exact leads_incremental source hPlain

end Transition

------------------------------------------------------------
-- Restyling a Screen
------------------------------------------------------------

/- What a terminal cannot show is not asked of it. -/
theorem Capabilities.underline_adaptStyle
    (caps : Capabilities)
    (style : Style) :
    caps.styledUnderline = false →
      (caps.adaptStyle style).underline = .none
        ∨ (caps.adaptStyle style).underline = .straight := by
  intro hPlain
  cases hUnderline : style.underline <;>
    simp [adaptStyle, adaptUnderline, hPlain, hUnderline,
      Underline.isUnderlined]

/- A style change that leads somewhere brings a screen there. -/
theorem Screen.restyle_of_leads
    (s : Screen)
    {sgr : Sgr}
    {target : Style}
    (h : sgr.Leads s.style target) :
    s.restyle sgr = { s with style := target } := by
  have hRead := h.leads.read
  unfold Screen.restyle
  split
  · rename_i hEmpty
    have hNil : sgr.params = [] := List.isEmpty_iff.mp hEmpty
    rw [Sgr.groups, hNil] at hRead
    simp only [List.map_nil, Rendition.readFrom?] at hRead
    rw [← Option.some.inj hRead]
  · rename_i hSome
    have hGroups : sgr.groups.isEmpty = false := by
      simpa [Sgr.isEmpty, Sgr.groups] using hSome
    rw [Rendition.read?, hGroups]
    simp [hRead]

end Redraw
