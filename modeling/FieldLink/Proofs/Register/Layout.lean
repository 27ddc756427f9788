import FieldLink.Proofs.Register.BitField
import Mathlib.Data.List.Pairwise
import Mathlib.Data.List.Perm.Basic

/-!
# Several fields of one word

Fields that share no bit are independent of each other.  A write to one of them is invisible in the
others (`bits_writeAll_of_apart`), and two such writes may change places (`write_write_of_apart`),
so a list of them leaves one word in whatever order it is written (`writeAll_perm`).
-/

namespace FieldLink.Word

/-- A field of a word, with the value that is written to it. -/
structure Field where
  index : Nat
  len : Nat
  val : Word

namespace Field

/-- The bit at `k` belongs to the field. -/
def Covers (f : Field) (k : Nat) : Prop := f.index ≤ k ∧ k < f.index + f.len

instance (f : Field) (k : Nat) : Decidable (f.Covers k) := inferInstanceAs (Decidable (_ ∧ _))

/-- Each bit of the field is a bit of the word. -/
def IsInside (f : Field) : Prop := ∀ k, f.Covers k → k < 64

/-- No bit belongs to both fields. -/
def Apart (f g : Field) : Prop := ∀ k, f.Covers k → ¬g.Covers k

theorem Apart.symm {f g : Field} (apart : f.Apart g) : g.Apart f :=
  fun k second first => apart k first second

instance : Std.Symm Field.Apart := ⟨fun _ _ => Apart.symm⟩

/-- Nothing of the field is cut off at the end of the word.  A field without bits may begin
anywhere. -/
theorem IsInside.min_len {f : Field} (inside : f.IsInside) : min f.len (64 - f.index) = f.len := by
  have last := inside (f.index + f.len - 1)
  unfold Covers at last
  omega

end Field

variable {w w' : Word} {f g : Field} {fields : List Field} {k : Nat}

/-- The word with the field made equal to the lowest bits of its value. -/
def write (w : Word) (f : Field) : Word := w.setBits f.index f.len f.val

/-- The word after writing the fields one after another. -/
def writeAll (w : Word) (fields : List Field) : Word := fields.foldl write w

/-! ## One write -/

theorem getLsbD_write (w : Word) (f : Field) (inside : k < 64) :
    (w.write f).getLsbD k = if f.Covers k then f.val.getLsbD (k - f.index) else w.getLsbD k :=
  getLsbD_setBits w f.val f.index f.len inside

theorem getLsbD_write_of_not_covers (w : Word) (clear : ¬f.Covers k) :
    (w.write f).getLsbD k = w.getLsbD k := by
  by_cases inside : k < 64
  · rw [getLsbD_write w f inside, if_neg clear]
  · have beyond : 64 ≤ k := Nat.not_lt.1 inside
    rw [BitVec.getLsbD_of_ge _ _ beyond, BitVec.getLsbD_of_ge _ _ beyond]

/-- Writes to fields that share no bit may change places. -/
theorem write_write_of_apart (w : Word) (apart : f.Apart g) :
    (w.write f).write g = (w.write g).write f := by
  apply BitVec.eq_of_getLsbD_eq
  intro k inside
  rw [getLsbD_write _ g inside, getLsbD_write _ f inside, getLsbD_write _ f inside,
    getLsbD_write _ g inside]
  by_cases covered : f.Covers k
  · rw [if_neg (apart k covered), if_pos covered, if_pos covered]
  · rw [if_neg covered, if_neg covered]

/-- A field shows its own bits only. -/
theorem bits_congr (same : ∀ k, f.Covers k → w.getLsbD k = w'.getLsbD k) :
    w.bits f.index f.len = w'.bits f.index f.len := by
  apply BitVec.eq_of_getLsbD_eq
  intro k _
  rw [getLsbD_bits, getLsbD_bits]
  by_cases within : k < f.len
  · rw [same (f.index + k) ⟨Nat.le_add_right _ _, Nat.add_lt_add_left within _⟩]
  · rw [decide_eq_false within, Bool.false_and, Bool.false_and]

/-! ## All writes -/

theorem writeAll_append (w : Word) (before after : List Field) :
    w.writeAll (before ++ after) = (w.writeAll before).writeAll after :=
  List.foldl_append

/-- A bit that belongs to none of the fields stays as it is. -/
theorem getLsbD_writeAll_of_not_covers (w : Word) (clear : ∀ f ∈ fields, ¬f.Covers k) :
    (w.writeAll fields).getLsbD k = w.getLsbD k := by
  induction fields generalizing w with
  | nil => rfl
  | cons f rest ih =>
    obtain ⟨first, others⟩ := List.forall_mem_cons.1 clear
    calc (w.writeAll (f :: rest)).getLsbD k
        = ((w.write f).writeAll rest).getLsbD k := rfl
      _ = (w.write f).getLsbD k := ih (w.write f) others
      _ = w.getLsbD k := getLsbD_write_of_not_covers w first

/-- Writes are invisible in a field that shares no bit with theirs. -/
theorem bits_writeAll_of_apart (w : Word) (apart : ∀ g ∈ fields, f.Apart g) :
    (w.writeAll fields).bits f.index f.len = w.bits f.index f.len :=
  bits_congr fun k covered =>
    getLsbD_writeAll_of_not_covers w fun g member => apart g member k covered

/-- The order of writes to fields that share no bit makes no difference. -/
theorem writeAll_perm (w : Word) {order : List Field} (perm : fields.Perm order)
    (apart : fields.Pairwise Field.Apart) : w.writeAll fields = w.writeAll order := by
  refine perm.foldl_eq' (fun f first g second w => ?_) w
  -- a field may stand in the list twice only if it is empty, and then the writes are equal anyway
  by_cases same : f = g
  · rw [same]
  · exact write_write_of_apart w (apart.forall first second same)

/-- What is written to a field is read back, whatever is written to the other fields. -/
theorem toNat_bits_writeAll (w : Word) (apart : fields.Pairwise Field.Apart) (member : f ∈ fields)
    (inside : f.IsInside) :
    ((w.writeAll fields).bits f.index f.len).toNat = f.val.toNat % 2 ^ f.len := by
  obtain ⟨before, after, rfl⟩ := List.append_of_mem member
  have later : ∀ g ∈ after, f.Apart g :=
    (List.pairwise_cons.1 (List.pairwise_append.1 apart).2.1).1
  rw [writeAll_append, show (w.writeAll before).writeAll (f :: after) =
    ((w.writeAll before).write f).writeAll after from rfl, bits_writeAll_of_apart _ later, write,
    toNat_bits_setBits, inside.min_len]

/-- Fields that lie inside the word and share no bit give the same word in every order of writing.
Each of them then reads as it was written, cut to its length, and all other bits are as before. -/
theorem writeAll_of_apart (w : Word) {fields : List Field} (inside : ∀ f ∈ fields, f.IsInside)
    (apart : fields.Pairwise Field.Apart) :
    (∀ order, fields.Perm order → w.writeAll fields = w.writeAll order) ∧
    (∀ f ∈ fields,
      ((w.writeAll fields).bits f.index f.len).toNat = f.val.toNat % 2 ^ f.len) ∧
    ∀ k, (∀ f ∈ fields, ¬f.Covers k) → (w.writeAll fields).bit k = w.bit k := by
  refine ⟨fun order perm => writeAll_perm w perm apart,
    fun f member => toNat_bits_writeAll w apart member (inside f member), fun k clear => ?_⟩
  rw [bit, bit, getLsbD_writeAll_of_not_covers w clear]

/-- A field at the end of the word, one that is empty within another, and one that borders on it. -/
theorem writeAll_of_apart_bordering :
    let fields : List Field := [⟨60, 4, 0xFA⟩, ⟨8, 8, 0x1BC⟩, ⟨10, 0, 0xFF⟩, ⟨16, 4, 0x5⟩]
    (∀ f ∈ fields, f.IsInside) ∧ fields.Pairwise Field.Apart ∧
      writeAll 0x0123456789ABCDEF fields = writeAll 0x0123456789ABCDEF fields.reverse ∧
      ((writeAll 0x0123456789ABCDEF fields).bits 8 8).toNat = 0xBC ∧
      (writeAll 0x0123456789ABCDEF fields).bit 20 = 0 := by
  intro fields
  have inside : ∀ f ∈ fields, f.IsInside := by
    simp only [fields, List.forall_mem_cons, Field.IsInside, Field.Covers]
    refine ⟨?_, ?_, ?_, ?_, by simp⟩ <;> omega
  have apart : fields.Pairwise Field.Apart := by
    simp only [fields, List.pairwise_cons, List.forall_mem_cons, Field.Apart, Field.Covers]
    refine ⟨⟨?_, ?_, ?_, by simp⟩, ⟨?_, ?_, by simp⟩, ⟨?_, by simp⟩, by simp, .nil⟩ <;> omega
  obtain ⟨order, reading, others⟩ := writeAll_of_apart 0x0123456789ABCDEF inside apart
  refine ⟨inside, apart, order _ fields.reverse_perm.symm, ?_, ?_⟩
  · exact reading ⟨8, 8, 0x1BC⟩ (by simp [fields])
  · exact others 20 (by decide)

end FieldLink.Word
