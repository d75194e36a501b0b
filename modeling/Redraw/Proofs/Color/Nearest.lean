import Redraw.Color.Octets
import Mathlib.Tactic.Linarith
import Mathlib.Tactic.Ring

/-
  Nearest colors: what is found in the palette without a search.

  A squared distance is a sum over the channels, so the nearest
  level of each channel gives the nearest entry of the cube.  On
  the ramp only the sum of the channels counts: half way between
  two greys is where a step of the average begins.

  Key definitions include:
    * `Palette.IsNearest`

  Main declarations:
    * `Palette.distance_cube_le`, `Palette.distance_grey_le`
    * `Palette.nearest256?_eq`
    * `Palette.nearest256_nearest`
-/

namespace Redraw

namespace Palette

------------------------------------------------------------
-- Least Costs
------------------------------------------------------------

variable {α : Type}

/- Nothing that was looked at costs less. -/
theorem cost_cheapest_le
    (cost : α → Nat)
    (best : α)
    (as : List α) :
    ∀ a ∈ best :: as, cost (cheapest cost best as) ≤ cost a := by
  induction as generalizing best with
  | nil => simp [cheapest]
  | cons a as ih =>
      have hStart := ih (if cost a < cost best then a else best)
      rw [List.forall_mem_cons] at hStart ⊢
      rw [List.forall_mem_cons, cheapest]
      refine ⟨?_, ?_, hStart.2⟩ <;>
        apply Nat.le_trans hStart.1 <;> split <;> omega

/- No level of a channel is nearer. -/
theorem channelDistance_nearestLevel_le
    (v : UInt8)
    (i : Fin 6) :
    channelDistance (level (nearestLevel v)) v ≤
      channelDistance (level i) v := by
  apply cost_cheapest_le (fun i => channelDistance (level i) v)
  revert i
  decide

------------------------------------------------------------
-- The Cube
------------------------------------------------------------

theorem channelDistance_comm
    (a b : UInt8) :
    channelDistance a b = channelDistance b a :=
  Nat.add_comm _ _

/- No entry of the cube is nearer than the one of the levels. -/
theorem distance_cube_le
    (c : Rgb)
    (r g b : Fin 6) :
    distance c
        (cubeRgb (nearestLevel c.red) (nearestLevel c.green)
          (nearestLevel c.blue)) ≤
      distance c (cubeRgb r g b) := by
  have hChannel (v : UInt8) (i : Fin 6) :
      Nat.pow (channelDistance v (level (nearestLevel v))) 2 ≤
        Nat.pow (channelDistance v (level i)) 2 := by
    rw [channelDistance_comm v, channelDistance_comm v]
    exact Nat.pow_le_pow_left (channelDistance_nearestLevel_le v i) 2
  have hRed := hChannel c.red r
  have hGreen := hChannel c.green g
  have hBlue := hChannel c.blue b
  simp only [distance, cubeRgb]
  omega

------------------------------------------------------------
-- The Ramp
------------------------------------------------------------

theorem cast_sq_channelDistance
    (a b : UInt8) :
    ((Nat.pow (channelDistance a b) 2 : Nat) : Int) =
      ((a.toNat : Int) - b.toNat) ^ 2 := by
  have hCases :
      (channelDistance a b : Int) = (a.toNat : Int) - b.toNat ∨
        (channelDistance a b : Int) = b.toNat - a.toNat := by
    unfold channelDistance
    omega
  rw [Nat.pow_eq, Nat.cast_pow]
  rcases hCases with h | h <;> rw [h]
  ring

theorem toNat_grey
    (step : Fin 24) :
    (UInt8.ofNat (8 + 10 * step.val)).toNat = 8 + 10 * step.val := by
  rw [UInt8.toNat_ofNat']
  omega

/- The distance from a grey, without absolute differences. -/
theorem cast_distance_grey
    (c : Rgb)
    (step : Fin 24) :
    (distance c (greyRgb step) : Int) =
      (c.red.toNat - (8 + 10 * step.val)) ^ 2
        + (c.green.toNat - (8 + 10 * step.val)) ^ 2
        + (c.blue.toNat - (8 + 10 * step.val)) ^ 2 := by
  simp only [distance, greyRgb, Nat.cast_add,
    cast_sq_channelDistance, toNat_grey, Nat.cast_mul, Nat.cast_ofNat]

/-
  A value is at least as near to three others as another value
  that is not on their side of the middle between the two.
-/
theorem sum_sq_le
    {r g b v w : Int}
    (h : 0 ≤ (w - v) * (3 * (w + v) - 2 * (r + g + b))) :
    (r - v) ^ 2 + (g - v) ^ 2 + (b - v) ^ 2 ≤
      (r - w) ^ 2 + (g - w) ^ 2 + (b - w) ^ 2 := by
  have hGap :
      (r - w) ^ 2 + (g - w) ^ 2 + (b - w) ^ 2 -
          ((r - v) ^ 2 + (g - v) ^ 2 + (b - v) ^ 2) =
        (w - v) * (3 * (w + v) - 2 * (r + g + b)) := by
    ring
  linarith

/-
  No grey is nearer than the one of the average.  By the side
  on which the other grey is: the sum of the channels is on
  this side of the middle between both.
-/
theorem distance_grey_le
    (c : Rgb)
    (step : Fin 24) :
    distance c (greyRgb (nearestGrey c)) ≤
      distance c (greyRgb step) := by
  have hNearest :
      (nearestGrey c).val =
        min (((c.red.toNat + c.green.toNat + c.blue.toNat) / 3 - 3) / 10)
          23 := rfl
  have hLast := step.isLt
  rw [← Int.ofNat_le, cast_distance_grey, cast_distance_grey]
  apply sum_sq_le
  rcases Nat.lt_or_ge step.val (nearestGrey c).val with hBelow | hAbove
  · apply Int.mul_nonneg_of_nonpos_of_nonpos
    · omega
    · omega
  · rcases Nat.eq_or_lt_of_le hAbove with hSame | hAbove
    · simp [hSame]
    · apply Int.mul_nonneg
      · omega
      · omega

------------------------------------------------------------
-- Entries
------------------------------------------------------------

theorem toNat_cubeIndex
    (r g b : Fin 6) :
    (cubeIndex r g b).toNat = 16 + 36 * r.val + 6 * g.val + b.val := by
  rw [cubeIndex, UInt8.toNat_ofNat']
  omega

theorem toNat_greyIndex
    (step : Fin 24) :
    (greyIndex step).toNat = 232 + step.val := by
  rw [greyIndex, UInt8.toNat_ofNat']
  omega

/- An index of the cube is that of its levels. -/
theorem rgb_cubeIndex
    (r g b : Fin 6) :
    rgb (cubeIndex r g b) = cubeRgb r g b := by
  have hRed : Fin.ofNat 6 ((36 * r.val + 6 * g.val + b.val) / 36) = r := by
    apply Fin.ext
    rw [Fin.val_ofNat]
    omega
  have hGreen :
      Fin.ofNat 6 ((36 * r.val + 6 * g.val + b.val) % 36 / 6) = g := by
    apply Fin.ext
    rw [Fin.val_ofNat]
    omega
  have hBlue : Fin.ofNat 6 ((36 * r.val + 6 * g.val + b.val) % 6) = b := by
    apply Fin.ext
    rw [Fin.val_ofNat]
    omega
  have hPlace :
      16 + 36 * r.val + 6 * g.val + b.val - 16 =
        36 * r.val + 6 * g.val + b.val := by
    omega
  simp only [rgb, toNat_cubeIndex]
  rw [if_neg (by omega), if_pos (by omega), hPlace, hRed, hGreen, hBlue]

theorem rgb_greyIndex
    (step : Fin 24) :
    rgb (greyIndex step) = greyRgb step := by
  have hStep : Fin.ofNat 24 (232 + step.val - 232) = step := by
    apply Fin.ext
    rw [Fin.val_ofNat]
    omega
  simp only [rgb, toNat_greyIndex]
  rw [if_neg (by omega), if_neg (by omega), hStep]

/- Past the system colors there are the cube and the ramp. -/
theorem rgb_of_le
    {i : UInt8}
    (h : 16 ≤ i) :
    (∃ r g b, rgb i = cubeRgb r g b) ∨
      ∃ step, rgb i = greyRgb step := by
  have hFrom : 16 ≤ i.toNat := UInt8.le_iff_toNat_le.mp h
  unfold rgb
  simp only
  rw [if_neg (by omega)]
  split
  · exact .inl ⟨_, _, _, rfl⟩
  · exact .inr ⟨_, rfl⟩

end Palette

------------------------------------------------------------
-- Eight Bits
------------------------------------------------------------

namespace Octet

theorem add?_ofNat
    {m n : Nat}
    (h : m + n < 256) :
    add? (.ofNat m) (.ofNat n) = some (.ofNat (m + n)) := by
  have hFirst := UInt8.toNat_ofNat_of_lt' (show m < 256 by omega)
  have hSecond := UInt8.toNat_ofNat_of_lt' (show n < 256 by omega)
  rw [add?, hFirst, hSecond, if_pos h, UInt8.ofNat_add]

theorem mul?_ofNat
    {m n : Nat}
    (hFirst : m < 256)
    (hSecond : n < 256)
    (h : m * n < 256) :
    mul? (.ofNat m) (.ofNat n) = some (.ofNat (m * n)) := by
  rw [mul?, UInt8.toNat_ofNat_of_lt' hFirst,
    UInt8.toNat_ofNat_of_lt' hSecond, if_pos h, UInt8.ofNat_mul]

theorem sub?_of_le
    {i : UInt8}
    {n : Nat}
    (h : n ≤ i.toNat) :
    sub? i (.ofNat n) = some (.ofNat (i.toNat - n)) := by
  have hLess := i.toNat_lt
  have hSecond := UInt8.toNat_ofNat_of_lt' (show n < 256 by omega)
  rw [sub?, hSecond, if_pos h, UInt8.ofNat_sub h, UInt8.ofNat_toNat]

end Octet

namespace Palette

theorem cubeIndex?_eq
    (r g b : Fin 6) :
    cubeIndex? (.ofNat r.val) (.ofNat g.val) (.ofNat b.val) =
      some (cubeIndex r g b) := by
  have hRed : Octet.mul? 36 (.ofNat r.val) = some _ :=
    @Octet.mul?_ofNat 36 r.val (by omega) (by omega) (by omega)
  have hGreen : Octet.mul? 6 (.ofNat g.val) = some _ :=
    @Octet.mul?_ofNat 6 g.val (by omega) (by omega) (by omega)
  have hFirst : Octet.add? 16 (.ofNat (36 * r.val)) = some _ :=
    @Octet.add?_ofNat 16 (36 * r.val) (by omega)
  simp only [cubeIndex?, hRed, hGreen, hFirst, Option.bind_eq_bind,
    Option.bind_some]
  rw [Octet.add?_ofNat (by omega), Option.bind_some,
    Octet.add?_ofNat (by omega)]
  rfl

theorem levels_eq
    (i : Fin 6) :
    levels[i.val]? = some (level i) := by
  revert i
  decide

/- The levels of a cube entry are looked up inside their table. -/
theorem levels_ofNat
    {n : Nat}
    (h : n < 6) :
    levels[n]? = some (level (Fin.ofNat 6 n)) := by
  rw [← levels_eq, Fin.val_ofNat, Nat.mod_eq_of_lt h]

/- Every entry of the palette is found. -/
theorem rgb?_eq
    (i : UInt8) :
    rgb? i = some (rgb i) := by
  have hLess := i.toNat_lt
  have hFirst : i < 16 ↔ i.toNat < 16 := UInt8.lt_iff_toNat_lt
  have hSecond : i < 232 ↔ i.toNat < 232 := UInt8.lt_iff_toNat_lt
  simp only [rgb?, rgb, hFirst, hSecond]
  by_cases hSystem : i.toNat < 16
  · have hInside : i.toNat < system.length := hSystem
    rw [if_pos hSystem, if_pos hSystem, List.getD_eq_getElem?_getD,
      List.getElem?_eq_getElem hInside, Option.getD_some]
  by_cases hCube : i.toNat < 232
  · have hPlace : Octet.sub? i 16 = some _ :=
      @Octet.sub?_of_le i 16 (by omega)
    have hRest :=
      UInt8.toNat_ofNat_of_lt' (show i.toNat - 16 < 256 by omega)
    have hRed :
        (UInt8.ofNat (i.toNat - 16) / 36).toNat = (i.toNat - 16) / 36 := by
      rw [UInt8.toNat_div, hRest]
      rfl
    have hGreen :
        (UInt8.ofNat (i.toNat - 16) % 36 / 6).toNat =
          (i.toNat - 16) % 36 / 6 := by
      rw [UInt8.toNat_div, UInt8.toNat_mod, hRest]
      rfl
    have hBlue :
        (UInt8.ofNat (i.toNat - 16) % 6).toNat = (i.toNat - 16) % 6 := by
      rw [UInt8.toNat_mod, hRest]
      rfl
    rw [if_neg hSystem, if_neg hSystem, if_pos hCube, if_pos hCube,
      hPlace]
    simp only [Option.bind_eq_bind, Option.bind_some, hRed, hGreen,
      hBlue]
    rw [levels_ofNat (by omega), Option.bind_some,
      levels_ofNat (by omega), Option.bind_some,
      levels_ofNat (by omega)]
    rfl
  · have hStep : Octet.sub? i 232 = some _ :=
      @Octet.sub?_of_le i 232 (by omega)
    have hTen : Octet.mul? 10 (.ofNat (i.toNat - 232)) = some _ :=
      @Octet.mul?_ofNat 10 (i.toNat - 232) (by omega) (by omega)
        (by omega)
    have hGrey : Octet.add? 8 (.ofNat (10 * (i.toNat - 232))) = some _ :=
      @Octet.add?_ofNat 8 (10 * (i.toNat - 232)) (by omega)
    have hInside : i.toNat - 232 < 24 := by omega
    rw [if_neg hSystem, if_neg hSystem, if_neg hCube, if_neg hCube,
      hStep]
    simp only [Option.bind_eq_bind, Option.bind_some, hTen, hGrey,
      greyRgb, Fin.val_ofNat, Nat.mod_eq_of_lt hInside]
    rfl

/- No number on the way to the nearest entry is too large. -/
theorem nearest256?_eq
    (c : Rgb) :
    nearest256? c = some (nearest256 c) := by
  have hGrey : Octet.add? 232 (.ofNat (nearestGrey c).val) = some _ :=
    @Octet.add?_ofNat 232 (nearestGrey c).val (by omega)
  have hRamp := rgb_greyIndex (nearestGrey c)
  rw [greyIndex] at hRamp
  simp only [nearest256?, cubeIndex?_eq, hGrey, rgb?_eq, hRamp,
    rgb_cubeIndex, Option.bind_eq_bind, Option.bind_some, nearest256]
  split <;> rfl

------------------------------------------------------------
-- Nearest Entries
------------------------------------------------------------

/- An entry past the system colors to which none is nearer. -/
structure IsNearest
    (c : Rgb)
    (i : UInt8) : Prop where
  past_system : 16 ≤ i
  nearest :
    ∀ j, 16 ≤ j → distance c (rgb i) ≤ distance c (rgb j)

theorem channelDistance_eq_zero_iff
    (a b : UInt8) :
    channelDistance a b = 0 ↔ a = b := by
  rw [← UInt8.toNat_inj]
  unfold channelDistance
  omega

theorem distance_eq_zero_iff
    (a b : Rgb) :
    distance a b = 0 ↔ a = b := by
  cases a
  cases b
  simp only [distance, Nat.pow_eq, Nat.add_eq_zero_iff,
    pow_eq_zero_iff two_ne_zero, channelDistance_eq_zero_iff,
    Rgb.mk.injEq, and_assoc]

/- Neither the cube nor the ramp has a nearer entry. -/
theorem isNearest_nearest256
    (c : Rgb) :
    IsNearest c (nearest256 c) where
  past_system := by
    rw [UInt8.le_iff_toNat_le]
    unfold nearest256
    simp only
    split
    · rw [toNat_greyIndex]
      exact Nat.le_add_right_of_le (by decide)
    · rw [toNat_cubeIndex]
      change 16 ≤ _
      omega
  nearest := by
    intro j hPast
    have hFound :
        distance c (rgb (nearest256 c)) =
          min (distance c (greyRgb (nearestGrey c)))
            (distance c
              (cubeRgb (nearestLevel c.red) (nearestLevel c.green)
                (nearestLevel c.blue))) := by
      unfold nearest256
      simp only
      split
      · rw [rgb_greyIndex]
        omega
      · rw [rgb_cubeIndex]
        omega
    rw [hFound]
    rcases rgb_of_le hPast with ⟨r, g, b, hEntry⟩ | ⟨step, hEntry⟩
    · rw [hEntry]
      exact Nat.le_trans (Nat.min_le_right _ _) (distance_cube_le c r g b)
    · rw [hEntry]
      exact Nat.le_trans (Nat.min_le_left _ _) (distance_grey_le c step)

/-
  The entry that is found is nearest to the color, and all
  numbers on the way to it fit into eight bits.  So a color that
  is in the cube or on the ramp is found there.
-/
theorem nearest256_nearest
    (c : Rgb) :
    nearest256? c = some (nearest256 c) ∧
      IsNearest c (nearest256 c) ∧
        ∀ i, 16 ≤ i → c = rgb i → rgb (nearest256 c) = c := by
  have hNearest := isNearest_nearest256 c
  refine ⟨nearest256?_eq c, hNearest, ?_⟩
  rintro i hPast hExact
  have hZero : distance c (rgb i) = 0 :=
    (distance_eq_zero_iff _ _).mpr hExact
  have hLeast := hNearest.nearest i hPast
  rw [hZero, Nat.le_zero, distance_eq_zero_iff] at hLeast
  exact hLeast.symm

end Palette

end Redraw
