import NodeFamilies.Disk.Buffered

/-!
# Buffers lose nothing

In front of a target that takes bytes, the bytes that have reached it and those that wait are at
any time what has been handed over. A target that takes none stays as it is, and whoever hands
over a byte learns of it at the latest when the buffer is emptied.
-/

namespace NodeFamilies.Buffered

/-- All that has been handed over. -/
def taken (b : Buffered) : Bytes := b.sent ++ b.waiting

/-! ## Room in the buffer -/

theorem writeAll_of_room {b : Buffered} {pieces : List Bytes}
    (h : b.waiting.length + pieces.flatten.length < capacity) :
    writeAll put b pieces = ({ b with waiting := b.waiting ++ pieces.flatten }, none) := by
  induction pieces generalizing b with
  | nil => simp [writeAll]
  | cons piece pieces ih =>
    rw [List.flatten_cons, List.length_append] at h
    have hput : b.put piece = ({ b with waiting := b.waiting ++ piece }, none) := by
      rw [put, if_pos (by omega)]
    rw [writeAll, hput]
    dsimp only
    rw [ih (by rw [List.length_append]; omega)]
    simp

theorem writeThrough_of_room {b : Buffered} {pieces : List Bytes}
    (h : b.waiting.length + pieces.flatten.length < capacity) (giveUp : Option String) :
    (b.writeThrough pieces giveUp).2 =
      (giveUp.map .interrupted <|> { b with waiting := b.waiting ++ pieces.flatten }.flush.2) := by
  rw [writeThrough, writeAll_of_room h]
  cases giveUp <;> rfl

theorem eq_none_of_writeThrough {b : Buffered} {pieces : List Bytes} {giveUp : Option String}
    (h : (b.writeThrough pieces giveUp).2 = none) : giveUp = none := by
  cases giveUp with
  | none => rfl
  | some reason =>
    rw [writeThrough] at h
    cases hrefused : (writeAll put b pieces).2 <;> simp [hrefused] at h

/-! ## A target that takes bytes -/

theorem send_of_accepting {b : Buffered} (h : b.accepting = true) (data : Bytes) :
    b.send data = ({ b with sent := b.sent ++ data }, none) := by
  rw [send]
  split
  · rename_i hd
    rw [hd, List.append_nil]
  · rfl

theorem flush_of_accepting {b : Buffered} (h : b.accepting = true) :
    b.flush = ({ b with sent := b.taken, waiting := [] }, none) := by
  rw [flush, send_of_accepting h, taken]

theorem accept_of_accepting {b : Buffered} (h : b.accepting = true) (data : Bytes)
    (hw : capacity ≤ data.length → b.waiting = []) :
    ∃ b', b.accept data = (b', none) ∧ b'.accepting = true ∧ b'.taken = b.taken ++ data := by
  rw [accept]
  split
  · rename_i hd
    exact ⟨_, send_of_accepting h data, h, by simp [taken, hw hd]⟩
  · exact ⟨_, rfl, h, by simp [taken]⟩

theorem put_of_accepting {b : Buffered} (h : b.accepting = true) (data : Bytes) :
    ∃ b', b.put data = (b', none) ∧ b'.accepting = true ∧ b'.taken = b.taken ++ data := by
  rw [put]
  split
  · exact ⟨_, rfl, h, by simp [taken]⟩
  split
  · rw [flush_of_accepting h]
    obtain ⟨b', hput, hacc, htaken⟩ := accept_of_accepting
      (b := { b with sent := b.taken, waiting := [] }) h data fun _ => rfl
    exact ⟨b', hput, hacc, by simpa [taken] using htaken⟩
  · -- The piece fits exactly; if it is as large as the buffer, nothing waits.
    apply accept_of_accepting h data
    intro hd
    exact List.length_eq_zero_iff.mp (by omega)

theorem writeAll_of_accepting {b : Buffered} (h : b.accepting = true) (pieces : List Bytes) :
    ∃ b', writeAll put b pieces = (b', none) ∧ b'.accepting = true ∧
      b'.taken = b.taken ++ pieces.flatten := by
  induction pieces generalizing b with
  | nil => exact ⟨b, rfl, h, by simp⟩
  | cons piece pieces ih =>
    obtain ⟨b₁, hput, hacc, htaken⟩ := put_of_accepting h piece
    obtain ⟨b', hall, hacc', htaken'⟩ := ih hacc
    refine ⟨b', ?_, hacc', ?_⟩
    · rw [writeAll, hput]
      exact hall
    · rw [htaken', htaken, List.flatten_cons, List.append_assoc]

theorem writeThrough_of_accepting {b : Buffered} (h : b.accepting = true) (pieces : List Bytes)
    (giveUp : Option String) :
    ∃ b', b.writeThrough pieces giveUp = (b', giveUp.map .interrupted) ∧
      b'.sent = b.taken ++ pieces.flatten := by
  obtain ⟨b₁, hall, hacc, htaken⟩ := writeAll_of_accepting h pieces
  refine ⟨{ b₁ with sent := b₁.taken, waiting := [] }, ?_, htaken⟩
  rw [writeThrough, hall]
  dsimp only
  rw [flush_of_accepting hacc]
  cases giveUp <;> rfl

/-! ## A target that takes none -/

theorem send_of_refusing {b : Buffered} (h : b.accepting = false) {data : Bytes}
    (hd : data ≠ []) : b.send data = (b, some .storageFull) := by
  rw [send, if_neg hd, h]
  rfl

theorem flush_of_refusing {b : Buffered} (h : b.accepting = false) (hw : b.waiting ≠ []) :
    b.flush = (b, some .storageFull) := by
  rw [flush, send_of_refusing h hw]

theorem accept_of_refusing {b : Buffered} (h : b.accepting = false) (data : Bytes) :
    b.accept data = ({ b with waiting := b.waiting ++ data }, none) ∨
      b.accept data = (b, some .storageFull) := by
  rw [accept]
  split
  · rename_i hd
    have hne : data ≠ [] := by
      rintro rfl
      exact absurd hd (by decide)
    exact Or.inr (send_of_refusing h hne)
  · exact Or.inl rfl

theorem put_of_refusing {b : Buffered} (h : b.accepting = false) (data : Bytes) :
    b.put data = ({ b with waiting := b.waiting ++ data }, none) ∨
      b.put data = (b, some .storageFull) := by
  rw [put]
  split
  · exact Or.inl rfl
  split
  · by_cases hw : b.waiting = []
    · have hflush : b.flush = (b, none) := by
        obtain ⟨accepting, sent, waiting⟩ := b
        obtain rfl : waiting = [] := hw
        rfl
      rw [hflush]
      exact accept_of_refusing h data
    · rw [flush_of_refusing h hw]
      exact Or.inr rfl
  · exact accept_of_refusing h data

theorem writeAll_of_refusing {b : Buffered} (h : b.accepting = false) (pieces : List Bytes) :
    ∃ w, writeAll put b pieces = ({ b with waiting := w }, some .storageFull) ∨
      writeAll put b pieces = ({ b with waiting := w }, none) ∧ w = b.waiting ++ pieces.flatten := by
  induction pieces generalizing b with
  | nil => exact ⟨b.waiting, Or.inr ⟨rfl, by simp⟩⟩
  | cons piece pieces ih =>
    rw [writeAll]
    rcases put_of_refusing h piece with hput | hput
    · rw [hput]
      obtain ⟨w, hall | ⟨hall, hw⟩⟩ := ih (b := { b with waiting := b.waiting ++ piece }) h
      · exact ⟨w, Or.inl hall⟩
      · exact ⟨w, Or.inr ⟨hall, by simp [hw]⟩⟩
    · rw [hput]
      exact ⟨b.waiting, Or.inl rfl⟩

theorem writeThrough_of_refusing {b : Buffered} (h : b.accepting = false) {pieces : List Bytes}
    (hp : pieces.flatten ≠ []) :
    (b.writeThrough pieces none).2 = some .storageFull := by
  rw [writeThrough]
  obtain ⟨w, hall | ⟨hall, rfl⟩⟩ := writeAll_of_refusing h pieces
  · rw [hall]
    rfl
  · rw [hall]
    dsimp only
    have hw : b.waiting ++ pieces.flatten ≠ [] := by simp [hp]
    rw [flush_of_refusing (b := { b with waiting := b.waiting ++ pieces.flatten }) h hw]
    rfl

end NodeFamilies.Buffered
