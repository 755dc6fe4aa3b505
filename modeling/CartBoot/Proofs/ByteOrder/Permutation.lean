import CartBoot.ByteOrder.InPlace
import Mathlib.Tactic.IntervalCases

/-!
# Byte orders as permutations

Rearranging a buffer of whole groups takes each byte from the opposite position of its group. The
assignments between lanes do the same, so that a buffer rearranged where it stands holds what the
rearranged copy holds. The laws of the permutation are then arithmetic of positions.
-/

namespace CartBoot

/-! ## Lanes -/

namespace Bytes

variable {stride count start r : Nat}

theorem position_lt_iff (hr : r < stride) (k : Nat) :
    stride * k + r < stride * count ↔ k < count := by
  rw [Nat.mul_comm stride count, ← Nat.div_lt_iff_lt_mul (by omega), Nat.mul_add_div (by omega),
    Nat.div_eq_of_lt hr, Nat.add_zero]

/-- Buffers are equal if their groups are. -/
theorem ext_of_groups (positive : 0 < stride) {bytes other : Bytes}
    (alike : ∀ k r, r < stride → bytes[stride * k + r]? = other[stride * k + r]?) :
    bytes = other := by
  apply List.ext_getElem?
  intro i
  rw [← Nat.div_add_mod i stride]
  exact alike _ _ (Nat.mod_lt i positive)

theorem getElem?_lane (positive : 0 < stride) (skip : Nat) (bytes : Bytes) (k : Nat) :
    (bytes.lane stride skip)[k]? = bytes[stride * k + skip]? := by
  induction bytes generalizing skip k with
  | nil => simp [lane]
  | cons b rest ih =>
      cases skip with
      | succ skip => exact ih skip k
      | zero =>
          cases k with
          | zero => rfl
          | succ k =>
              have hindex : stride * (k + 1) + 0 = stride * k + (stride - 1) + 1 := by
                rw [Nat.mul_succ]
                omega
              rw [lane, List.getElem?_cons_succ, ih, hindex, List.getElem?_cons_succ]

/-- A lane has one byte of each group. -/
theorem length_lane {bytes : Bytes} (whole : bytes.length = stride * count)
    (inside : start < stride) : (bytes.lane stride start).length = count := by
  have hlength : ∀ k, (bytes.lane stride start).length ≤ k ↔ count ≤ k := by
    intro k
    rw [← List.getElem?_eq_none_iff, getElem?_lane (by omega), List.getElem?_eq_none_iff, whole,
      ← Nat.not_lt, position_lt_iff inside, Nat.not_lt]
  apply Nat.le_antisymm
  · exact (hlength count).mpr (Nat.le_refl count)
  · exact (hlength _).mp (Nat.le_refl _)

@[simp] theorem length_setLane (buffer : Bytes) (stride start : Nat) (source : Bytes) :
    (buffer.setLane stride start source).length = buffer.length := by
  simp [setLane]

/-- An assignment changes its lane alone, and all of it. -/
theorem getElem?_setLane {buffer source : Bytes} (whole : buffer.length = stride * count)
    (fits : source.length = count) (hr : r < stride) (k : Nat) :
    (buffer.setLane stride start source)[stride * k + r]? =
      if r = start then source[k]? else buffer[stride * k + r]? := by
  have hmod : (stride * k + r) % stride = r := by
    rw [Nat.mul_add_mod, Nat.mod_eq_of_lt hr]
  have hdiv : (stride * k + r) / stride = k := by
    rw [Nat.mul_add_div (by omega), Nat.div_eq_of_lt hr, Nat.add_zero]
  rw [setLane, List.getElem?_mapIdx, hmod, hdiv]
  split
  next here =>
    by_cases below : k < count
    · have hbuffer : stride * k + r < buffer.length := by
        rwa [whole, position_lt_iff hr]
      have hsource : k < source.length := by
        rwa [fits]
      rw [List.getElem?_eq_getElem hbuffer, Option.map_some, List.getD_eq_getElem?_getD,
        List.getElem?_eq_getElem hsource, Option.getD_some]
    · have hbuffer : buffer.length ≤ stride * k + r := by
        rwa [whole, ← Nat.not_lt, position_lt_iff hr]
      rw [List.getElem?_eq_none hbuffer, List.getElem?_eq_none (by omega), Option.map_none]
  next => simp

/-- A lane that a buffer of the same length lends replaces a lane and no other byte. -/
theorem getElem?_setLane_lane {source : Nat} {buffer origin : Bytes}
    (whole : buffer.length = stride * count) (alike : origin.length = buffer.length)
    (inside : source < stride) (hr : r < stride) (k : Nat) :
    (buffer.setLane stride start (origin.lane stride source))[stride * k + r]? =
      if r = start then origin[stride * k + source]? else buffer[stride * k + r]? := by
  rw [getElem?_setLane whole (length_lane (alike.trans whole) inside) hr,
    getElem?_lane (by omega)]

theorem getElem?_copyLane {source : Nat} {buffer : Bytes} (whole : buffer.length = stride * count)
    (inside : source < stride) (hr : r < stride) (k : Nat) :
    (buffer.copyLane stride start source)[stride * k + r]? =
      if r = start then buffer[stride * k + source]? else buffer[stride * k + r]? :=
  getElem?_setLane_lane whole rfl inside hr k

@[simp] theorem length_copyLane (buffer : Bytes) (stride target source : Nat) :
    (buffer.copyLane stride target source).length = buffer.length :=
  length_setLane ..

end Bytes

namespace ByteOrder

/-! ## Positions -/

/-- The position opposite to a position in its group. -/
def mirror (order : ByteOrder) (i : Nat) : Nat :=
  order.group * (i / order.group) + (order.group - 1 - i % order.group)

variable {order : ByteOrder} {bytes : Bytes}

theorem mirror_big (i : Nat) : big.mirror i = i := by
  simp only [mirror, group]
  omega

theorem mirror_little {r : Nat} (hr : r < 4) (g : Nat) :
    little.mirror (4 * g + r) = 4 * g + 3 - r := by
  simp only [mirror, group]
  omega

theorem mirror_swapped {r : Nat} (hr : r < 2) (g : Nat) :
    swapped.mirror (2 * g + r) = 2 * g + 1 - r := by
  simp only [mirror, group]
  omega

theorem mirror_mirror (order : ByteOrder) (i : Nat) : order.mirror (order.mirror i) = i := by
  cases order <;> simp only [mirror, group] <;> omega

/-- Opposite positions of both kinds lie half a word apart. -/
theorem mirror_little_swapped {r : Nat} (hr : r < 4) (g : Nat) :
    little.mirror (swapped.mirror (4 * g + r)) = 4 * g + (r + 2) % 4 := by
  simp only [mirror, group]
  omega

theorem mirror_swapped_little (i : Nat) :
    swapped.mirror (little.mirror i) = little.mirror (swapped.mirror i) := by
  simp only [mirror, group]
  omega

/-! ## The rearranged copy -/

theorem getElem?_arrange_little {bytes : Bytes} (whole : bytes.length % 4 = 0) {r : Nat}
    (hr : r < 4) (g : Nat) :
    (little.arrange bytes)[4 * g + r]? = bytes[4 * g + 3 - r]? := by
  match bytes, g with
  | [], _ => rfl
  | [_], _ | [_, _], _ | [_, _, _], _ => simp at whole
  | a :: b :: c :: d :: rest, 0 =>
      rw [arrange_little_cons]
      interval_cases r <;> rfl
  | a :: b :: c :: d :: rest, g + 1 =>
      have hrest : rest.length % 4 = 0 := by
        simp only [List.length_cons] at whole
        omega
      have hfrom : 4 * (g + 1) + 3 - r = 4 * g + 3 - r + 4 := by omega
      have hto : 4 * (g + 1) + r = 4 * g + r + 4 := by omega
      rw [arrange_little_cons, hfrom, hto]
      exact getElem?_arrange_little hrest hr g

theorem getElem?_arrange_swapped {bytes : Bytes} (whole : bytes.length % 2 = 0) {r : Nat}
    (hr : r < 2) (g : Nat) :
    (swapped.arrange bytes)[2 * g + r]? = bytes[2 * g + 1 - r]? := by
  match bytes, g with
  | [], _ => rfl
  | [_], _ => simp at whole
  | a :: b :: rest, 0 =>
      rw [arrange_swapped_cons]
      interval_cases r <;> rfl
  | a :: b :: rest, g + 1 =>
      have hrest : rest.length % 2 = 0 := by
        simp only [List.length_cons] at whole
        omega
      have hfrom : 2 * (g + 1) + 1 - r = 2 * g + 1 - r + 2 := by omega
      have hto : 2 * (g + 1) + r = 2 * g + r + 2 := by omega
      rw [arrange_swapped_cons, hfrom, hto]
      exact getElem?_arrange_swapped hrest hr g

/-- A rearranged buffer holds at each position the byte from the opposite one. -/
theorem getElem?_arrange (whole : bytes.length % order.group = 0) (i : Nat) :
    (order.arrange bytes)[i]? = bytes[order.mirror i]? := by
  cases order with
  | big => rw [mirror_big, arrange_big]
  | little =>
      have hr : i % 4 < 4 := Nat.mod_lt _ (by decide)
      have hi : 4 * (i / 4) + i % 4 = i := Nat.div_add_mod i 4
      rw [← hi, mirror_little hr, getElem?_arrange_little whole hr]
  | swapped =>
      have hr : i % 2 < 2 := Nat.mod_lt _ (by decide)
      have hi : 2 * (i / 2) + i % 2 = i := Nat.div_add_mod i 2
      rw [← hi, mirror_swapped hr, getElem?_arrange_swapped whole hr]

theorem arrange_arrange (whole : bytes.length % order.group = 0) :
    order.arrange (order.arrange bytes) = bytes := by
  apply List.ext_getElem?
  intro i
  rw [getElem?_arrange (by rwa [length_arrange]), getElem?_arrange whole, mirror_mirror]

theorem arrange_comm (whole : bytes.length % 4 = 0) :
    little.arrange (swapped.arrange bytes) = swapped.arrange (little.arrange bytes) := by
  have hpairs : bytes.length % swapped.group = 0 := by
    simp only [group]
    omega
  apply List.ext_getElem?
  intro i
  rw [getElem?_arrange (by rwa [length_arrange]), getElem?_arrange hpairs,
    getElem?_arrange (by rwa [length_arrange]), getElem?_arrange whole, mirror_swapped_little]

/-! ## The buffer rearranged where it stands -/

/-- The outer lanes of a word change places, and so do the inner ones. -/
theorem getElem?_arrangeLanes_little (whole : bytes.length % 4 = 0) {r : Nat} (hr : r < 4)
    (g : Nat) : (little.arrangeLanes bytes)[4 * g + r]? = bytes[4 * g + 3 - r]? := by
  have hwhole : bytes.length = 4 * (bytes.length / 4) := by omega
  have outer : ∀ r < 4, (bytes.copyLane 4 0 3)[4 * g + r]? =
      if r = 0 then bytes[4 * g + 3]? else bytes[4 * g + r]? :=
    fun r hr => Bytes.getElem?_copyLane hwhole (by decide) hr g
  have inner : ∀ r < 4, ((bytes.copyLane 4 0 3).copyLane 4 1 2)[4 * g + r]? =
      if r = 1 then (bytes.copyLane 4 0 3)[4 * g + 2]? else (bytes.copyLane 4 0 3)[4 * g + r]? :=
    fun r hr => Bytes.getElem?_copyLane (by simpa using hwhole) (by decide) hr g
  simp only [arrangeLanes]
  rw [Bytes.getElem?_setLane_lane (by simpa using hwhole) (by simp) (by decide) hr,
    Bytes.getElem?_setLane_lane (by simpa using hwhole) (by simp) (by decide) hr,
    inner r hr, outer 2 (by decide), outer r hr]
  interval_cases r <;> rfl

theorem getElem?_arrangeLanes_swapped (whole : bytes.length % 2 = 0) {r : Nat} (hr : r < 2)
    (g : Nat) : (swapped.arrangeLanes bytes)[2 * g + r]? = bytes[2 * g + 1 - r]? := by
  have hwhole : bytes.length = 2 * (bytes.length / 2) := by omega
  simp only [arrangeLanes]
  rw [Bytes.getElem?_setLane_lane (by simpa using hwhole) (by simp) (by decide) hr,
    Bytes.getElem?_copyLane hwhole (by decide) hr]
  interval_cases r <;> rfl

/-- On whole groups the assignments between lanes make up the permutation. -/
theorem arrangeLanes_eq (whole : bytes.length % order.group = 0) :
    order.arrangeLanes bytes = order.arrange bytes := by
  cases order with
  | big => rfl
  | little =>
      apply Bytes.ext_of_groups (show 0 < 4 by decide)
      intro g r hr
      rw [getElem?_arrangeLanes_little whole hr, getElem?_arrange_little whole hr]
  | swapped =>
      apply Bytes.ext_of_groups (show 0 < 2 by decide)
      intro g r hr
      rw [getElem?_arrangeLanes_swapped whole hr, getElem?_arrange_swapped whole hr]

theorem normalizeInPlace_eq (order : ByteOrder) (bytes : Bytes) :
    order.normalizeInPlace bytes =
      if bytes.length % order.group = 0 then .ok () (order.arrangeLanes bytes)
      else .error (.raggedLength bytes.length order.group) bytes := by
  -- The buffer is read first, so that a run starts with the check of its length.
  have hread : order.normalizeInPlace bytes =
      (if bytes.length % order.group ≠ 0 then do
        throw (.raggedLength bytes.length order.group)
        modify order.arrangeLanes
      else modify order.arrangeLanes : EStateM Fault Bytes Unit) bytes := rfl
  rw [hread]
  by_cases whole : bytes.length % order.group = 0
  · rw [if_pos whole, if_neg (not_not.mpr whole)]
    rfl
  · rw [if_neg whole, if_pos whole]
    rfl

/-! ## The laws of rearranging -/

/-- What rearranging a buffer comes to, for the copy and for the buffer itself. -/
structure Rearranges (bytes : Bytes) : Prop where
  canonical : big.normalize bytes = .ok bytes
  words_iff : (∃ out, little.normalize bytes = .ok out) ↔ bytes.length % 4 = 0
  pairs_iff : (∃ out, swapped.normalize bytes = .ok out) ↔ bytes.length % 2 = 0
  words : ∀ out, little.normalize bytes = .ok out → out.length = bytes.length ∧
    ∀ g r, r < 4 → out[4 * g + r]? = bytes[4 * g + 3 - r]?
  pairs : ∀ out, swapped.normalize bytes = .ok out → out.length = bytes.length ∧
    ∀ g r, r < 2 → out[2 * g + r]? = bytes[2 * g + 1 - r]?
  inPlace : ∀ (order : ByteOrder) (out : Bytes), order.normalize bytes = .ok out →
    order.normalizeInPlace bytes = .ok () out
  /-- A refused buffer keeps its bytes. -/
  refused : ∀ (order : ByteOrder) (fault : Fault), order.normalize bytes = .error fault →
    fault = .raggedLength bytes.length order.group ∧
      order.normalizeInPlace bytes = .error fault bytes
  restored : ∀ (order : ByteOrder) (out : Bytes), order.normalize bytes = .ok out →
    order.normalize out = .ok bytes
  /-- Both rearrangements of whole words together swap the halves of each word. -/
  halves : bytes.length % 4 = 0 → ∃ out : Bytes, out.length = bytes.length ∧
    (little.normalize bytes).bind swapped.normalize = .ok out ∧
    (swapped.normalize bytes).bind little.normalize = .ok out ∧
    ∀ g r, r < 4 → out[4 * g + r]? = bytes[4 * g + (r + 2) % 4]?

theorem normalize_eq_ok_iff {out : Bytes} :
    order.normalize bytes = .ok out ↔
      bytes.length % order.group = 0 ∧ out = order.arrange bytes := by
  unfold normalize
  split
  next whole => simp [whole, eq_comm]
  next ragged => simp [ragged]

theorem normalize_eq_error_iff {fault : Fault} :
    order.normalize bytes = .error fault ↔
      bytes.length % order.group ≠ 0 ∧ fault = .raggedLength bytes.length order.group := by
  unfold normalize
  split
  next whole => simp [whole]
  next ragged => simp [ragged, eq_comm]

theorem exists_normalize_iff :
    (∃ out, order.normalize bytes = .ok out) ↔ bytes.length % order.group = 0 := by
  simp only [normalize_eq_ok_iff, exists_and_left, exists_eq, and_true]

/-- One rearrangement behind the other moves a byte by half a word. -/
theorem getElem?_arrange_arrange (whole : bytes.length % 4 = 0) {r : Nat} (hr : r < 4) (g : Nat) :
    (swapped.arrange (little.arrange bytes))[4 * g + r]? = bytes[4 * g + (r + 2) % 4]? := by
  have hpairs : (little.arrange bytes).length % swapped.group = 0 := by
    rw [length_arrange]
    simp only [group]
    omega
  calc (swapped.arrange (little.arrange bytes))[4 * g + r]?
      = (little.arrange bytes)[swapped.mirror (4 * g + r)]? := getElem?_arrange hpairs _
    _ = bytes[little.mirror (swapped.mirror (4 * g + r))]? := getElem?_arrange whole _
    _ = bytes[4 * g + (r + 2) % 4]? := by rw [mirror_little_swapped hr]

/-- Rearranging permutes the bytes of whole groups, is undone by itself, and fails on other buffers
without a change to them. -/
theorem normalize_rearranges (bytes : Bytes) : Rearranges bytes := by
  constructor
  case canonical => exact normalize_eq_ok_iff.mpr ⟨Nat.mod_one _, rfl⟩
  case words_iff => exact exists_normalize_iff
  case pairs_iff => exact exists_normalize_iff
  case words =>
    intro out h
    obtain ⟨whole, rfl⟩ := normalize_eq_ok_iff.mp h
    exact ⟨length_arrange _ _, fun g r hr => getElem?_arrange_little whole hr g⟩
  case pairs =>
    intro out h
    obtain ⟨whole, rfl⟩ := normalize_eq_ok_iff.mp h
    exact ⟨length_arrange _ _, fun g r hr => getElem?_arrange_swapped whole hr g⟩
  case inPlace =>
    intro order out h
    obtain ⟨whole, rfl⟩ := normalize_eq_ok_iff.mp h
    rw [normalizeInPlace_eq, if_pos whole, arrangeLanes_eq whole]
  case refused =>
    intro order fault h
    obtain ⟨ragged, rfl⟩ := normalize_eq_error_iff.mp h
    refine ⟨rfl, ?_⟩
    rw [normalizeInPlace_eq, if_neg ragged]
  case restored =>
    intro order out h
    obtain ⟨whole, rfl⟩ := normalize_eq_ok_iff.mp h
    apply normalize_eq_ok_iff.mpr
    exact ⟨by rwa [length_arrange], (arrange_arrange whole).symm⟩
  case halves =>
    intro whole
    have hpairs : bytes.length % 2 = 0 := by omega
    refine ⟨swapped.arrange (little.arrange bytes), by simp, ?_, ?_, ?_⟩
    · rw [normalize_eq_ok_iff.mpr ⟨whole, rfl⟩, Except.bind, normalize_eq_ok_iff]
      exact ⟨by rwa [length_arrange], rfl⟩
    · rw [normalize_eq_ok_iff.mpr ⟨hpairs, rfl⟩, Except.bind, normalize_eq_ok_iff]
      exact ⟨by rwa [length_arrange], (arrange_comm whole).symm⟩
    · exact fun g r hr => getElem?_arrange_arrange whole hr g

/-- Pairs without whole words can be swapped but not reversed. -/
example : swapped.normalizeInPlace [1, 2, 3, 4, 5, 6] = .ok () [2, 1, 4, 3, 6, 5] ∧
    little.normalizeInPlace [1, 2, 3, 4, 5, 6] =
      .error (.raggedLength 6 4) [1, 2, 3, 4, 5, 6] :=
  ⟨rfl, rfl⟩

end ByteOrder

end CartBoot
