import Mathlib.Data.List.Basic

/-!
# Bounded buffers

Copies into and out of a buffer of a fixed length.  A copy that leaves the buffer fails.
The rules read a field back behind any number of copies: from the copy that wrote it, or,
where no copy comes near it, from the buffer before them.
-/

namespace Buffer

variable {α : Type*}

/-- Items to be written from an offset on. -/
structure Copy (α : Type*) where
  offset : ℕ
  items : List α

namespace Copy

/-- The offset behind the last item. -/
def stop (copy : Copy α) : ℕ := copy.offset + copy.items.length

/-- The copy does not leave a buffer of this length. -/
def Within (length : ℕ) (copy : Copy α) : Prop := copy.stop ≤ length

instance (length : ℕ) (copy : Copy α) : Decidable (copy.Within length) :=
  Nat.decLe _ _

/-- The copy writes nothing between two offsets. -/
def Avoids (start stop : ℕ) (copy : Copy α) : Prop :=
  stop ≤ copy.offset ∨ copy.stop ≤ start

/-- Two copies to different places. -/
def Apart (left right : Copy α) : Prop := right.Avoids left.offset left.stop

end Copy

/-- The items from an offset on. -/
def load (buffer : List α) (offset length : ℕ) : Option (List α) :=
  if offset + length ≤ buffer.length then some ((buffer.drop offset).take length) else none

/-- The buffer behind a copy. -/
def store (buffer : List α) (copy : Copy α) : Option (List α) :=
  if copy.Within buffer.length then
    some (buffer.take copy.offset ++ (copy.items ++ buffer.drop copy.stop))
  else
    none

/-- The buffer behind copies made one after the other. -/
def storeAll (buffer : List α) : List (Copy α) → Option (List α)
  | [] => some buffer
  | copy :: copies => (store buffer copy).bind fun next => storeAll next copies

section Store

variable {buffer after : List α} {copy : Copy α} {offset length : ℕ}

theorem store_eq_some (stored : store buffer copy = some after) :
    copy.Within buffer.length ∧
      after = buffer.take copy.offset ++ (copy.items ++ buffer.drop copy.stop) := by
  unfold store at stored
  split at stored
  · rename_i within
    exact ⟨within, (Option.some.inj stored).symm⟩
  · cases stored

theorem Copy.Within.offset_le (within : copy.Within buffer.length) :
    copy.offset ≤ buffer.length :=
  Nat.le_trans (Nat.le_add_right _ _) within

theorem length_of_store (stored : store buffer copy = some after) :
    after.length = buffer.length := by
  rcases store_eq_some stored with ⟨within, rfl⟩
  have offsetLe := within.offset_le
  have stopLe : copy.offset + copy.items.length ≤ buffer.length := within
  simp only [List.length_append, List.length_take, List.length_drop, Copy.stop]
  omega

/-- What was written is read back. -/
theorem load_of_store (stored : store buffer copy = some after) :
    load after copy.offset copy.items.length = some copy.items := by
  have sameLength := length_of_store stored
  rcases store_eq_some stored with ⟨within, rfl⟩
  have front : (buffer.take copy.offset).length = copy.offset :=
    List.length_take_of_le within.offset_le
  have inside : copy.offset + copy.items.length ≤ buffer.length := within
  rw [load, sameLength, if_pos inside, List.drop_left' front, List.take_left]

/-- A copy elsewhere leaves what is read as it was. -/
theorem load_of_store_avoids (stored : store buffer copy = some after)
    (avoids : copy.Avoids offset (offset + length)) :
    load after offset length = load buffer offset length := by
  have sameLength := length_of_store stored
  rcases store_eq_some stored with ⟨within, rfl⟩
  have front : (buffer.take copy.offset).length = copy.offset :=
    List.length_take_of_le within.offset_le
  rw [load, load, sameLength]
  congr 2
  rcases avoids with before | behind
  · have frontLong : offset ≤ (buffer.take copy.offset).length := by omega
    have fieldLong : length ≤ ((buffer.take copy.offset).drop offset).length := by
      rw [List.length_drop]
      omega
    rw [List.drop_append_of_le_length frontLong, List.take_append_of_le_length fieldLong,
      List.drop_take, List.take_take, Nat.min_eq_left (by omega)]
  · have headLength : (buffer.take copy.offset ++ copy.items).length = copy.stop := by
      rw [List.length_append, front, Copy.stop]
    have headShort : (buffer.take copy.offset ++ copy.items).length ≤ offset := by
      rwa [headLength]
    rw [← List.append_assoc, List.drop_append, List.drop_eq_nil_of_le headShort, headLength,
      List.nil_append, List.drop_drop, Nat.add_sub_cancel' behind]

end Store

section StoreAll

variable {buffer after : List α} {copies : List (Copy α)} {offset length : ℕ}

theorem storeAll_cons {copy : Copy α} :
    storeAll buffer (copy :: copies) = some after ↔
      ∃ next, store buffer copy = some next ∧ storeAll next copies = some after := by
  rw [storeAll, Option.bind_eq_some_iff]

theorem length_of_storeAll (stored : storeAll buffer copies = some after) :
    after.length = buffer.length := by
  induction copies generalizing buffer with
  | nil =>
      rw [storeAll, Option.some.injEq] at stored
      rw [stored]
  | cons copy copies ih =>
      rcases storeAll_cons.mp stored with ⟨next, first, rest⟩
      rw [ih rest, length_of_store first]

/-- Copies succeed exactly when none of them leaves the buffer. -/
theorem exists_storeAll_iff :
    (∃ after, storeAll buffer copies = some after) ↔
      ∀ copy ∈ copies, copy.Within buffer.length := by
  induction copies generalizing buffer with
  | nil => simp [storeAll]
  | cons copy copies ih =>
      rw [List.forall_mem_cons]
      constructor
      · intro succeeds
        rcases succeeds with ⟨after, stored⟩
        rcases storeAll_cons.mp stored with ⟨next, first, rest⟩
        have within := ih.mp ⟨after, rest⟩
        rw [length_of_store first] at within
        exact ⟨(store_eq_some first).1, within⟩
      · intro within
        have first : ∃ next, store buffer copy = some next := by
          rw [store, if_pos within.1]
          exact ⟨_, rfl⟩
        rcases first with ⟨next, first⟩
        have others : ∀ copy ∈ copies, copy.Within next.length := by
          rw [length_of_store first]
          exact within.2
        rcases ih.mpr others with ⟨after, rest⟩
        exact ⟨after, storeAll_cons.mpr ⟨next, first, rest⟩⟩

/-- Copies elsewhere leave what is read as it was. -/
theorem load_of_storeAll_avoids (stored : storeAll buffer copies = some after)
    (avoid : ∀ copy ∈ copies, copy.Avoids offset (offset + length)) :
    load after offset length = load buffer offset length := by
  induction copies generalizing buffer with
  | nil =>
      rw [storeAll, Option.some.injEq] at stored
      rw [stored]
  | cons copy copies ih =>
      rcases storeAll_cons.mp stored with ⟨next, first, rest⟩
      rw [List.forall_mem_cons] at avoid
      rw [ih rest avoid.2, load_of_store_avoids first avoid.1]

/-- Of copies to different places each is read back. -/
theorem load_of_storeAll {copy : Copy α} (stored : storeAll buffer copies = some after)
    (apart : copies.Pairwise Copy.Apart) (membership : copy ∈ copies) :
    load after copy.offset copy.items.length = some copy.items := by
  induction copies generalizing buffer with
  | nil => cases membership
  | cons head copies ih =>
      rcases storeAll_cons.mp stored with ⟨next, first, rest⟩
      rcases List.pairwise_cons.mp apart with ⟨headApart, restApart⟩
      rcases List.mem_cons.mp membership with rfl | later
      · rw [load_of_storeAll_avoids rest headApart, load_of_store first]
      · exact ih rest restApart later

end StoreAll

section Load

variable {buffer first second : List α} {offset middle left right : ℕ}

/-- A buffer is what is read from the whole of it. -/
theorem load_whole (buffer : List α) : load buffer 0 buffer.length = some buffer := by
  rw [load, Nat.zero_add, if_pos (Nat.le_refl _), List.drop_zero, List.take_length]

theorem load_eq_some (loaded : load buffer offset left = some first) :
    offset + left ≤ buffer.length ∧ first = (buffer.drop offset).take left := by
  unfold load at loaded
  split at loaded
  · rename_i inside
    exact ⟨inside, (Option.some.inj loaded).symm⟩
  · cases loaded

/-- Nothing is read at any offset inside. -/
theorem load_nothing (inside : offset ≤ buffer.length) : load buffer offset 0 = some [] := by
  rw [load, Nat.add_zero, if_pos inside, List.take_zero]

/-- A field of a uniform buffer is uniform. -/
theorem load_replicate {size : ℕ} {item : α} (inside : offset + left ≤ size) :
    load (List.replicate size item) offset left = some (List.replicate left item) := by
  rw [load, List.length_replicate, if_pos inside, List.drop_replicate, List.take_replicate,
    Nat.min_eq_left (Nat.le_sub_of_add_le' inside)]

/-- Two fields side by side are one field. -/
theorem load_append (onFirst : load buffer offset left = some first)
    (beside : middle = offset + left) (onSecond : load buffer middle right = some second) :
    load buffer offset (left + right) = some (first ++ second) := by
  rw [beside] at onSecond
  rcases load_eq_some onFirst with ⟨_, rfl⟩
  rcases load_eq_some onSecond with ⟨inside, rfl⟩
  rw [load, ← Nat.add_assoc, if_pos inside, List.take_add, List.drop_drop]

/-- A row of fields of the same width is one field. -/
theorem load_flatMap {width number : ℕ} {field : ℕ → List α}
    (inside : offset + width * number ≤ buffer.length)
    (fields : ∀ i < number, load buffer (offset + width * i) width = some (field i)) :
    load buffer offset (width * number) = some ((List.range number).flatMap field) := by
  induction number with
  | zero => exact load_nothing inside
  | succ number ih =>
      rw [Nat.mul_succ, List.range_succ, List.flatMap_append]
      rw [Nat.mul_succ] at inside
      have front := ih (by omega) fun i below => fields i (Nat.lt_succ_of_lt below)
      have last := fields number (Nat.lt_succ_self _)
      have single : [number].flatMap field = field number := List.flatMap_singleton _ _
      rw [single]
      exact load_append front rfl last

end Load

end Buffer
