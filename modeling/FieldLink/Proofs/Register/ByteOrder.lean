import FieldLink.Proofs.Register.RoundTrip
import FieldLink.Register.ByteOrder
import Mathlib.Data.List.Nodup
import Mathlib.Data.List.Perm.Subperm
import Mathlib.Data.String.Basic
import Mathlib.Tactic.IntervalCases

/-!
# Rearranging bytes

The letters of an order are read one by one, against the positions named before.  What comes out is
that the accepted orders for `n` bytes are the first `n` letters, rearranged (`exists_targets_iff`):
then each position is named once, so that each byte has its place and each place its byte
(`getElem?_place`).  The positions of a rearrangement have an inverse, and the letters that name the
inverse take each byte back (`place_place`).
-/

namespace FieldLink

namespace ByteOrder

variable {n p : Nat} {b : UInt8} {c : Char} {cs : List Char} {order : String} {bytes : List UInt8}
  {ts : List Nat}

/-! ## Letters -/

/-- The letters, each at the position that it names. -/
def letters : List Char := ['A', 'B', 'C', 'D', 'E', 'F', 'G', 'H']

/-- Whether an order consists of the first `n` letters, each once. -/
def IsOrder (n : Nat) (order : String) : Prop :=
  n ≤ letters.length ∧ order.toList.Perm (letters.take n)

instance (n : Nat) (order : String) : Decidable (IsOrder n order) :=
  inferInstanceAs (Decidable (_ ∧ _))

theorem lt_of_getElem?_letters (letter : letters[p]? = some c) : p < 8 :=
  (List.getElem?_eq_some_iff.1 letter).1

theorem position?_eq_some_iff : position? c = some p ↔ letters[p]? = some c := by
  constructor
  · intro named
    unfold position? at named
    split at named
    · next within =>
      have least : 65 ≤ c.toNat := within.1
      have greatest : c.toNat ≤ 72 := within.2
      have base : 'A'.toNat = 65 := rfl
      rw [base, Option.some.injEq] at named
      have code : c.toNat = 65 + p := by omega
      have few : p < 8 := by omega
      rw [← Char.ofNat_toNat c, code]
      clear named code
      interval_cases p <;> rfl
    · cases named
  · intro letter
    have few := lt_of_getElem?_letters letter
    interval_cases p <;> (cases letter; rfl)

/-- A letter that names a position takes one byte of text. -/
theorem utf8Len_of_named (named : cs.map position? = ts.map some) :
    String.utf8Len cs = cs.length := by
  induction cs generalizing ts with
  | nil => rfl
  | cons c cs ih =>
    cases ts with
    | nil => cases named
    | cons p ts =>
      rw [List.map_cons, List.map_cons, List.cons.injEq] at named
      have letter := position?_eq_some_iff.1 named.1
      have few := lt_of_getElem?_letters letter
      have size : c.utf8Size = 1 := by
        clear named
        interval_cases p <;> (cases letter; rfl)
      rw [String.utf8Len_cons, ih named.2, size, List.length_cons]

/-! ## Positions -/

/-- The first letter names a position within reach that is new, and the others go on from there. -/
theorem positions_cons_eq_ok_iff {seen : List Nat} :
    positions n (c :: cs) seen = .ok ts ↔ ∃ p qs, ts = p :: qs ∧ position? c = some p ∧ p < n ∧
      p ∉ seen ∧ positions n cs (p :: seen) = .ok qs := by
  rw [positions]
  cases named : position? c with
  | none => simp
  | some p =>
    dsimp only
    split_ifs with outside repeated
    · simp [outside]
    · simp [repeated]
    · cases rest : positions n cs (p :: seen) with
      | error defect =>
        simp only [Except.map, reduceCtorEq, Option.some.injEq, false_iff]
        rintro ⟨q, qs, -, rfl, -, -, ok⟩
        rw [rest] at ok
        cases ok
      | ok qs =>
        simp only [Except.map, Except.ok.injEq, Option.some.injEq]
        constructor
        · rintro rfl
          exact ⟨p, qs, rfl, rfl, Nat.not_le.1 outside, repeated, rest⟩
        · rintro ⟨q, qs', rfl, rfl, -, -, ok⟩
          rw [rest, Except.ok.injEq] at ok
          rw [ok]

/-- The positions are those that the letters name, if all of them are within reach and new and no two
are the same. -/
theorem positions_eq_ok_iff {seen : List Nat} :
    positions n cs seen = .ok ts ↔
      cs.map position? = ts.map some ∧ ts.Nodup ∧ ∀ p ∈ ts, p < n ∧ p ∉ seen := by
  induction cs generalizing seen ts with
  | nil => cases ts <;> simp [positions]
  | cons c cs ih =>
    rw [positions_cons_eq_ok_iff]
    constructor
    · rintro ⟨p, qs, rfl, named, within, new, rest⟩
      obtain ⟨others, nodup, apart⟩ := ih.1 rest
      have once : p ∉ qs := fun mem => (apart p mem).2 List.mem_cons_self
      refine ⟨by rw [List.map_cons, List.map_cons, named, others], nodup.cons once, ?_⟩
      intro q mem
      rcases List.mem_cons.1 mem with rfl | mem
      · exact ⟨within, new⟩
      · exact ⟨(apart q mem).1, fun old => (apart q mem).2 (List.mem_cons_of_mem _ old)⟩
    · rintro ⟨named, nodup, apart⟩
      cases ts with
      | nil => cases named
      | cons p qs =>
        rw [List.map_cons, List.map_cons, List.cons.injEq] at named
        rw [List.nodup_cons] at nodup
        have first := apart p List.mem_cons_self
        refine ⟨p, qs, rfl, named.1, first.1, first.2, ih.2 ⟨named.2, nodup.2, fun q mem => ?_⟩⟩
        have later := apart q (List.mem_cons_of_mem _ mem)
        refine ⟨later.1, fun old => ?_⟩
        rcases List.mem_cons.1 old with rfl | old
        · exact nodup.1 mem
        · exact later.2 old

/-! ## Rearrangements of positions -/

section Rearranged

variable (perm : ts.Perm (List.range n))

include perm

theorem length_of_perm : ts.length = n := by rw [perm.length_eq, List.length_range]

theorem nodup_of_perm : ts.Nodup := perm.nodup_iff.2 List.nodup_range

theorem lt_of_perm (mem : p ∈ ts) : p < n := List.mem_range.1 (perm.mem_iff.1 mem)

end Rearranged

/-- The positions that an accepted order names are all positions below `n`, rearranged. -/
theorem targets_eq_ok_iff :
    targets n order = .ok ts ↔
      order.toList.map position? = ts.map some ∧ ts.Perm (List.range n) := by
  have size : order.utf8ByteSize = String.utf8Len order.toList := by
    rw [← String.utf8ByteSize_ofList, String.ofList_toList]
  unfold targets
  constructor
  · intro accepted
    split at accepted
    · next fits =>
      obtain ⟨named, nodup, within⟩ := positions_eq_ok_iff.1 accepted
      have length : ts.length = n := by
        rw [← fits, size, utf8Len_of_named named, ← List.length_map position?, named,
          List.length_map]
      have subset : ts ⊆ List.range n := fun p mem => List.mem_range.2 (within p mem).1
      refine ⟨named, (List.subperm_of_subset nodup subset).perm_of_length_le ?_⟩
      rw [List.length_range, length]
    · cases accepted
  · rintro ⟨named, perm⟩
    have fits : order.utf8ByteSize = n := by
      rw [size, utf8Len_of_named named, ← List.length_map position?, named, List.length_map,
        length_of_perm perm]
    rw [if_pos fits, positions_eq_ok_iff]
    exact ⟨named, nodup_of_perm perm, fun p mem => ⟨lt_of_perm perm mem, List.not_mem_nil⟩⟩

/-- The letters of positions below eight, and the positions of those letters. -/
theorem map_idxOf_take (few : n ≤ letters.length) :
    (letters.take n).map letters.idxOf = List.range n := by
  have few : n ≤ 8 := few
  interval_cases n <;> decide

theorem position?_of_mem (mem : c ∈ letters) : position? c = some (letters.idxOf c) :=
  position?_eq_some_iff.2 (List.getElem?_idxOf mem)

/-- An order is accepted when it is the first letters, rearranged. -/
theorem exists_targets_iff : (∃ ts, targets n order = .ok ts) ↔ IsOrder n order := by
  constructor
  · rintro ⟨ts, accepted⟩
    obtain ⟨named, perm⟩ := targets_eq_ok_iff.1 accepted
    have length : order.toList.length = n := by
      rw [← List.length_map position?, named, List.length_map, length_of_perm perm]
    have nodup : order.toList.Nodup := by
      apply List.Nodup.of_map position?
      rw [named]
      exact (nodup_of_perm perm).map (Option.some_injective _)
    have subset : order.toList ⊆ letters.take n := by
      intro c mem
      have position : position? c ∈ ts.map some := by
        rw [← named]
        exact List.mem_map_of_mem mem
      obtain ⟨p, target, found⟩ := List.mem_map.1 position
      have within := lt_of_perm perm target
      have letter := position?_eq_some_iff.1 found.symm
      rw [← List.getElem?_take_of_lt within] at letter
      exact List.mem_of_getElem? letter
    have subperm := List.subperm_of_subset nodup subset
    have few := subperm.length_le
    rw [length, List.length_take] at few
    refine ⟨by omega, subperm.perm_of_length_le ?_⟩
    rw [length, List.length_take]
    omega
  · rintro ⟨few, perm⟩
    have listed : ∀ c ∈ order.toList, c ∈ letters := fun c mem =>
      List.mem_of_mem_take (perm.mem_iff.1 mem)
    refine ⟨order.toList.map letters.idxOf, targets_eq_ok_iff.2 ⟨?_, ?_⟩⟩
    · rw [List.map_map]
      exact List.map_congr_left fun c mem => position?_of_mem (listed c mem)
    · rw [← map_idxOf_take few]
      exact perm.map _

/-! ## Places -/

/-- A place that no byte goes to keeps what it has. -/
theorem getElem?_foldl_set_of_notMem {ps : List (UInt8 × Nat)} {placed : List UInt8}
    (free : p ∉ ps.map Prod.snd) :
    (ps.foldl (fun placed (b, p) => placed.set p b) placed)[p]? = placed[p]? := by
  induction ps generalizing placed with
  | nil => rfl
  | cons head ps ih =>
    rw [List.map_cons, List.mem_cons, not_or] at free
    rw [List.foldl_cons, ih free.2, List.getElem?_set_ne (Ne.symm free.1)]

theorem length_foldl_set (ps : List (UInt8 × Nat)) (placed : List UInt8) :
    (ps.foldl (fun placed (b, p) => placed.set p b) placed).length = placed.length := by
  induction ps generalizing placed with
  | nil => rfl
  | cons head ps ih => rw [List.foldl_cons, ih, List.length_set]

/-- A byte is at the place that it alone goes to. -/
theorem getElem?_foldl_set {ps : List (UInt8 × Nat)} {placed : List UInt8}
    (nodup : (ps.map Prod.snd).Nodup) (mem : (b, p) ∈ ps) (within : p < placed.length) :
    (ps.foldl (fun placed (b, p) => placed.set p b) placed)[p]? = some b := by
  induction ps generalizing placed with
  | nil => cases mem
  | cons head ps ih =>
    rw [List.map_cons, List.nodup_cons] at nodup
    rw [List.foldl_cons]
    rcases List.mem_cons.1 mem with rfl | mem
    · rw [getElem?_foldl_set_of_notMem nodup.1, List.getElem?_set_self within]
    · refine ih nodup.2 mem ?_
      rw [List.length_set]
      exact within

theorem length_place (bytes : List UInt8) (ts : List Nat) :
    (place bytes ts).length = bytes.length := by
  rw [place, length_foldl_set, List.length_replicate]

/-- Each byte is at the place that its position names. -/
theorem getElem?_place (perm : ts.Perm (List.range bytes.length)) {i : Nat} (target : ts[i]? = some p) :
    (place bytes ts)[p]? = bytes[i]? := by
  have length := length_of_perm perm
  obtain ⟨inside, -⟩ := List.getElem?_eq_some_iff.1 target
  have within := lt_of_perm perm (List.mem_of_getElem? target)
  have snd : (bytes.zip ts).map Prod.snd = ts := List.map_snd_zip (by omega)
  rw [List.getElem?_eq_getElem (by omega : i < bytes.length), place]
  apply getElem?_foldl_set
  · rw [snd]
    exact nodup_of_perm perm
  · apply List.mem_of_getElem? (i := i)
    rw [List.getElem?_zip_eq_some]
    exact ⟨List.getElem?_eq_getElem _, target⟩
  · rw [List.length_replicate]
    exact within

/-! ## The way back -/

/-- Where the position that each byte goes to stands among the positions. -/
def inverse (ts : List Nat) : List Nat := (List.range ts.length).map ts.idxOf

/-- The order whose letters name the given positions. -/
def ofPositions (ts : List Nat) : String := String.ofList (ts.map fun p => letters.getD p 'A')

theorem targets_ofPositions (few : n ≤ letters.length) (perm : ts.Perm (List.range n)) :
    targets n (ofPositions ts) = .ok ts := by
  rw [targets_eq_ok_iff, ofPositions, String.toList_ofList, List.map_map]
  refine ⟨List.map_congr_left fun p mem => ?_, perm⟩
  have within : p < letters.length := (lt_of_perm perm mem).trans_le few
  rw [Function.comp_apply, position?_eq_some_iff, List.getD_eq_getElem?_getD,
    List.getElem?_eq_getElem within, Option.getD_some]

theorem getElem?_inverse (perm : ts.Perm (List.range n)) {i : Nat} (target : ts[i]? = some p) :
    (inverse ts)[p]? = some i := by
  have length := length_of_perm perm
  have within := lt_of_perm perm (List.mem_of_getElem? target)
  obtain ⟨inside, rfl⟩ := List.getElem?_eq_some_iff.1 target
  rw [inverse, List.getElem?_map, List.getElem?_range (by omega), Option.map_some,
    (nodup_of_perm perm).idxOf_getElem]

theorem inverse_perm (perm : ts.Perm (List.range n)) : (inverse ts).Perm (List.range n) := by
  have length := length_of_perm perm
  have same : ts.map ts.idxOf = List.range n := by
    apply List.ext_getElem
    · rw [List.length_map, List.length_range, length]
    · intro i _ _
      rw [List.getElem_map, (nodup_of_perm perm).idxOf_getElem, List.getElem_range]
  rw [inverse, length]
  exact (perm.symm.map _).trans (by rw [same])

/-- The inverse positions take each byte back. -/
theorem place_place (perm : ts.Perm (List.range bytes.length)) :
    place (place bytes ts) (inverse ts) = bytes := by
  have perm' : (inverse ts).Perm (List.range (place bytes ts).length) := by
    rw [length_place]
    exact inverse_perm perm
  have length := length_of_perm perm
  apply List.ext_getElem?
  intro i
  rcases Nat.lt_or_ge i bytes.length with inside | outside
  · have target : ts[i]? = some ts[i] := List.getElem?_eq_getElem _
    rw [getElem?_place perm' (getElem?_inverse perm target), getElem?_place perm target]
  · rw [List.getElem?_eq_none (by simpa [length_place] using outside),
      List.getElem?_eq_none outside]

end ByteOrder

/-! ## Reordering -/

open ByteOrder

variable {bytes placed : List UInt8} {order : String}

theorem reorder_eq_ok_iff :
    reorder bytes order = .ok placed ↔
      ∃ ts, targets bytes.length order = .ok ts ∧ place bytes ts = placed := by
  unfold reorder
  cases targets bytes.length order <;> simp

theorem exists_reorder_iff : (∃ placed, reorder bytes order = .ok placed) ↔
    IsOrder bytes.length order := by
  rw [← exists_targets_iff]
  constructor
  · rintro ⟨placed, accepted⟩
    obtain ⟨ts, accepted, -⟩ := reorder_eq_ok_iff.1 accepted
    exact ⟨ts, accepted⟩
  · rintro ⟨ts, accepted⟩
    exact ⟨_, reorder_eq_ok_iff.2 ⟨ts, accepted, rfl⟩⟩

theorem reorder_refused (refused : ¬ IsOrder bytes.length order) :
    ∃ problem, reorder bytes order = .error (.invalidByteOrder problem) := by
  unfold reorder
  cases accepted : targets bytes.length order with
  | ok ts => exact absurd (exists_targets_iff.1 ⟨ts, accepted⟩) refused
  | error defect => exact ⟨_, rfl⟩

theorem length_of_reorder (accepted : reorder bytes order = .ok placed) :
    placed.length = bytes.length := by
  obtain ⟨ts, -, rfl⟩ := reorder_eq_ok_iff.1 accepted
  exact length_place bytes ts

/-- A byte is moved to the position that the letter beside it names. -/
theorem getElem?_of_reorder (accepted : reorder bytes order = .ok placed) {i : Nat}
    (inside : i < bytes.length) : ∃ letter p, order.toList[i]? = some letter ∧
      letters[p]? = some letter ∧ p < bytes.length ∧ placed[p]? = bytes[i]? := by
  obtain ⟨ts, targets_eq, rfl⟩ := reorder_eq_ok_iff.1 accepted
  obtain ⟨named, perm⟩ := targets_eq_ok_iff.1 targets_eq
  have length := length_of_perm perm
  have target : ts[i]? = some ts[i] := List.getElem?_eq_getElem _
  have beside : (order.toList.map position?)[i]? = some (some ts[i]) := by
    rw [named, List.getElem?_map, target, Option.map_some]
  rw [List.getElem?_map] at beside
  obtain ⟨letter, stands, position⟩ := Option.map_eq_some_iff.1 beside
  exact ⟨letter, ts[i], stands, position?_eq_some_iff.1 position,
    lt_of_perm perm (List.getElem_mem _), getElem?_place perm target⟩

/-- An accepted order is undone by another one, whatever the bytes are. -/
theorem exists_reorder_reorder {n : Nat} (accepted : IsOrder n order) :
    ∃ order', IsOrder n order' ∧ ∀ bytes : List UInt8, bytes.length = n → ∃ placed,
      reorder bytes order = .ok placed ∧ reorder placed order' = .ok bytes := by
  obtain ⟨ts, targets_eq⟩ := exists_targets_iff.2 accepted
  have perm := (targets_eq_ok_iff.1 targets_eq).2
  have back := targets_ofPositions accepted.1 (inverse_perm perm)
  refine ⟨_, exists_targets_iff.1 ⟨_, back⟩, ?_⟩
  rintro bytes rfl
  refine ⟨place bytes ts, reorder_eq_ok_iff.2 ⟨ts, targets_eq, rfl⟩,
    reorder_eq_ok_iff.2 ⟨inverse ts, ?_, place_place perm⟩⟩
  rw [length_place]
  exact back

/-- An order is accepted for `n` bytes if it consists of the first `n` letters, each once, and is refused
with a sentence about it otherwise.  An accepted order takes each byte to the position that its letter
names, so it has an inverse among the accepted orders: reordering by both gives each string of `n`
bytes back, and a value that was written is read from there as if its registers were untouched. -/
theorem reorder_permutes :
    (∀ (bytes : List UInt8) (order : String),
      ((∃ placed, reorder bytes order = .ok placed) ↔ IsOrder bytes.length order) ∧
      (¬ IsOrder bytes.length order →
        ∃ problem, reorder bytes order = .error (.invalidByteOrder problem)) ∧
      ∀ placed, reorder bytes order = .ok placed → placed.length = bytes.length ∧
        ∀ i < bytes.length, ∃ letter p, order.toList[i]? = some letter ∧
          letters[p]? = some letter ∧ p < bytes.length ∧ placed[p]? = bytes[i]?) ∧
    ∀ (n : Nat) (order : String), IsOrder n order → ∃ order', IsOrder n order' ∧
      (∀ bytes : List UInt8, bytes.length = n → ∃ placed,
        reorder bytes order = .ok placed ∧ reorder placed order' = .ok bytes) ∧
      ∀ (v : Value) (t : ValueType) (bytes : List UInt8), encode v t = .ok bytes →
        bytes.length = n → ∃ placed restored w, reorder bytes order = .ok placed ∧
          reorder placed order' = .ok restored ∧ decode restored t = .ok w ∧
          decode bytes t = .ok w ∧ (v.type = t → v.isSingleNaN = false → w = v) := by
  refine ⟨fun bytes order => ⟨exists_reorder_iff, reorder_refused, fun placed accepted =>
    ⟨length_of_reorder accepted, fun i => getElem?_of_reorder accepted⟩⟩, fun n order accepted => ?_⟩
  obtain ⟨order', accepted', back⟩ := exists_reorder_reorder accepted
  refine ⟨order', accepted', back, fun v t bytes written length => ?_⟩
  obtain ⟨placed, moved, restored⟩ := back bytes length
  obtain ⟨w, rfl, registered, rfl⟩ := exists_of_encode_eq_ok written
  have read := decode_own registered
  refine ⟨placed, _, w, moved, restored, read, read, fun type number => ?_⟩
  have own := encode_type (v := v) (type ▸ registered) number
  rw [type, written, Except.ok.injEq] at own
  have again := decode_own (v := v) (type ▸ registered)
  rw [← own, type, read, Except.ok.injEq] at again
  exact again

/-- The registers of a number of single precision, exchanged and exchanged back. -/
theorem reorder_permutes_words :
    IsOrder 4 "CDAB" ∧ ¬ IsOrder 4 "AACD" ∧
      encode (.float32 (.ofBits .single 0x3FC00000)) .float32 = .ok [0x3F, 0xC0, 0, 0] ∧
      (∃ problem, reorder [1, 2, 3, 4] "AACD" = .error (.invalidByteOrder problem)) ∧
      ∃ order' placed restored, reorder [0x3F, 0xC0, 0, 0] "CDAB" = .ok placed ∧
        reorder placed order' = .ok restored ∧
        decode restored .float32 = .ok (.float32 (.ofBits .single 0x3FC00000)) := by
  have accepted : IsOrder 4 "CDAB" := by decide +kernel
  have refused : ¬ IsOrder 4 "AACD" := by decide +kernel
  have written : encode (.float32 (.ofBits .single 0x3FC00000)) .float32 =
      .ok [0x3F, 0xC0, 0, 0] := by decide +kernel
  obtain ⟨order', -, -, back⟩ := reorder_permutes.2 4 "CDAB" accepted
  obtain ⟨placed, restored, w, moved, returned, read, -, own⟩ := back _ _ _ written rfl
  rw [own rfl (by decide +kernel)] at read
  exact ⟨accepted, refused, written, (reorder_permutes.1 [1, 2, 3, 4] "AACD").2.1 refused,
    order', placed, restored, moved, returned, read⟩

end FieldLink
