import NodeFamilies.Proofs.Generating

/-!
# Writing without a buffer

What is written through the buffer could as well be written straight to the file, piece by piece: the
file holds the same bytes in the end. The buffer shows on a full device only, which may take a refused
byte as late as it is emptied, and then the reason of the one who gives up has come first.
-/

namespace NodeFamilies

/-! ## Definitions -/

namespace Disk

/-- Lays a piece over the bytes of a file from `offset` on. -/
def writeAt (d : Disk) (l : Location) (offset : Nat) (piece : Bytes) : Disk :=
  match d.get? l with
  | some (.file contents) =>
    d.set l (.file (contents.take offset ++ piece ++ contents.drop (offset + piece.length)))
  | _ => d

/-- Writes each piece straight to the file, where the one before it ended. -/
def writeEach (l : Location) : Disk → Nat → List Bytes → Disk
  | d, _, [] => d
  | d, offset, piece :: pieces => writeEach l (d.writeAt l offset piece) (offset + piece.length) pieces

end Disk

namespace Artifact

/-- Some pieces, and those of a module behind them if there is one to write. -/
def handed (pieces : List Bytes) (emitted : Option Grammar) : List Bytes :=
  pieces ++ emitted.toList.flatMap fun g => g.pieces.map Text.utf8

/-- What comes of writing into a file: it holds all that was handed over, and only the one who writes
can fail. -/
structure FileTakes (a : Artifact) (handed : List Bytes) (giveUp : Option String)
    (result : Except Failure String) (after : Disk) : Prop where
  read : after.read a.path = .ok handed.flatten
  succeeds : result = .ok a.path ↔ giveUp = none
  fails : ∀ reason, giveUp = some reason →
    result = .error (.artifact a.path (.interrupted reason))

/-- What comes of writing to a full device: the first failure counts, and as long as the buffer has
room the device has not been asked. -/
structure DeviceRefuses (a : Artifact) (handed : List Bytes) (giveUp : Option String)
    (result : Except Failure String) : Prop where
  succeeds : (∃ path, result = .ok path) ↔ handed.flatten = [] ∧ giveUp = none
  interrupted : ∀ reason, giveUp = some reason → handed.flatten.length < 8192 →
    result = .error (.artifact a.path (.interrupted reason))
  refused : giveUp = none → handed.flatten ≠ [] → result = .error (.artifact a.path .storageFull)

end Artifact

/-! ## Piece by piece -/

namespace Disk

variable {d : Disk} {l : Location}

theorem writeAt_of_file {done rest : Bytes} (h : d.get? l = some (.file (done ++ rest)))
    (piece : Bytes) :
    d.writeAt l done.length piece = d.set l (.file (done ++ piece ++ rest.drop piece.length)) := by
  unfold writeAt
  simp [h, List.drop_length_add_append]

theorem writeEach_of_file (hl : l ≠ []) (done : Bytes) {rest : Bytes}
    (h : d.get? l = some (.file (done ++ rest))) (pieces : List Bytes) :
    writeEach l d done.length pieces = d.set l (.file (done ++ overlay rest pieces.flatten)) := by
  -- The file is kept cut where the next piece goes: what is done stays, the rest is laid over.
  induction pieces generalizing d done rest with
  | nil => simp [writeEach, overlay, set_of_get? hl h]
  | cons piece pieces ih =>
    have hnext := get?_set_self (d := d) hl (.file (done ++ piece ++ rest.drop piece.length))
    rw [writeEach, writeAt_of_file h, ← List.length_append, ih _ hnext, set_set]
    simp [overlay, List.drop_drop]

theorem writeEach_of_no_file (h : ∀ contents, d.get? l ≠ some (.file contents)) (offset : Nat)
    (pieces : List Bytes) : writeEach l d offset pieces = d := by
  have hone : ∀ offset piece, d.writeAt l offset piece = d := by
    intro offset piece
    unfold writeAt
    split
    · rename_i contents hfile
      exact absurd hfile (h contents)
    · rfl
  induction pieces generalizing offset with
  | nil => rfl
  | cons piece pieces ih => rw [writeEach, hone, ih]

theorem writeEach_eq_overwrite (d : Disk) (l : Location) (pieces : List Bytes) :
    writeEach l d 0 pieces = d.overwrite l pieces.flatten := by
  by_cases h : ∃ contents, d.get? l = some (.file contents)
  · obtain ⟨contents, hfile⟩ := h
    have hl : l ≠ [] := ne_nil_of_get? (d := d) (by simp [hfile])
    have hall : writeEach l d 0 pieces = d.set l (.file (overlay contents pieces.flatten)) :=
      writeEach_of_file hl [] hfile pieces
    rw [hall, overwrite, hfile]
  · have hno : ∀ contents, d.get? l ≠ some (.file contents) := fun contents hc => h ⟨contents, hc⟩
    rw [writeEach_of_no_file hno]
    unfold overwrite
    split
    · rename_i contents hfile
      exact absurd hfile (hno contents)
    · rfl

end Disk

/-! ## Opened artifacts -/

namespace Artifact

variable {d d' : Disk} {dir stem : String} {a : Artifact} {pieces : List Bytes}
  {giveUp : Option String}

theorem open?_cases (h : open? d dir stem = .ok (a, d')) :
    a.path = pathIn dir stem ∧ d.resolve a.path = .ok a.location ∧
      (d.Replaceable a.location ∧ d' = d.set a.location (.file []) ∨
        d.get? a.location = some .full ∧ d' = d) := by
  unfold open? at h
  rcases d.create_cases (pathIn dir stem) with ⟨cause, hc⟩ | ⟨l, hr, hl⟩ | ⟨l, hr, hl⟩
  · simp [hc] at h
  · simp only [Disk.create_of_full hr hl, Except.ok.injEq, Prod.mk.injEq] at h
    obtain ⟨rfl, rfl⟩ := h
    exact ⟨rfl, hr, Or.inr ⟨hl, rfl⟩⟩
  · simp only [Disk.create_of_replaceable hr hl, Except.ok.injEq, Prod.mk.injEq] at h
    obtain ⟨rfl, rfl⟩ := h
    exact ⟨rfl, hr, Or.inl ⟨hl, rfl⟩⟩

theorem write_eq_writeEach (h : open? d dir stem = .ok (a, d')) (pieces : List Bytes)
    (giveUp : Option String) :
    (a.write d' pieces giveUp).2 = Disk.writeEach a.location d' 0 pieces := by
  rw [Disk.writeEach_eq_overwrite]
  obtain ⟨-, -, ⟨hl, rfl⟩ | ⟨hl, rfl⟩⟩ := open?_cases h
  · have hnil := Disk.ne_nil_of_get? hl.ne_directory
    rw [write_of_file (Disk.get?_set_self hnil _)]
  · rw [disk_write_of_full hl, Disk.overwrite, hl]

theorem fileTakes_write (h : open? d dir stem = .ok (a, d'))
    (hfile : d'.get? a.location = some (.file [])) :
    a.FileTakes pieces giveUp (a.write d' pieces giveUp).1 (a.write d' pieces giveUp).2 := by
  obtain ⟨-, hr, ⟨hl, rfl⟩ | ⟨hl, rfl⟩⟩ := open?_cases h
  · have hnil := Disk.ne_nil_of_get? hl.ne_directory
    rw [write_of_file hfile]
    refine ⟨?_, ?_, ?_⟩
    · dsimp only
      rw [Disk.overwrite_set_empty hnil]
      exact (Disk.set_replaced hr hl _).read
    · cases giveUp <;> simp
    · rintro reason rfl
      rfl
  · rw [hl] at hfile
    cases hfile

theorem writeThrough_buffer (h : pieces.flatten.length < 8192) :
    ((a.buffer d).writeThrough pieces giveUp).2 =
      (giveUp.map .interrupted <|> { a.buffer d with waiting := pieces.flatten }.flush.2) := by
  apply Buffered.writeThrough_of_room
  change 0 + pieces.flatten.length < 8192
  omega

theorem deviceRefuses_write (hfull : d.get? a.location = some .full) :
    a.DeviceRefuses pieces giveUp (a.write d pieces giveUp).1 := by
  have hrefused : giveUp = none → pieces.flatten ≠ [] →
      (a.write d pieces giveUp).1 = .error (.artifact a.path .storageFull) := by
    rintro rfl hne
    rw [write_of_full hfull hne]
  refine ⟨⟨?_, ?_⟩, ?_, hrefused⟩
  · rintro ⟨path, hok⟩
    have hgiveUp : giveUp = none := by
      rw [result_write] at hok
      split at hok
      · rename_i hnone
        exact Buffered.eq_none_of_writeThrough hnone
      · cases hok
    refine ⟨?_, hgiveUp⟩
    by_cases hnil : pieces.flatten = []
    · exact hnil
    · rw [hrefused hgiveUp hnil] at hok
      cases hok
  · rintro ⟨hnil, rfl⟩
    rw [result_write, writeThrough_buffer (by simp [hnil]), hnil]
    exact ⟨a.path, rfl⟩
  · rintro reason rfl hlt
    rw [result_write, writeThrough_buffer hlt]
    rfl

/-- An artifact that has just been opened is an empty file or a full device. The pieces come to the
file as if each had been written straight to it, and what else may happen is told for each of the
two. -/
theorem write_opened (h : open? d dir stem = .ok (a, d')) (pieces : List Bytes)
    (emitted : Option Grammar) (giveUp : Option String) :
    a.path = pathIn dir stem ∧
    (a.write d' (handed pieces emitted) giveUp).2 =
      Disk.writeEach a.location d' 0 (handed pieces emitted) ∧
    (d'.get? a.location = some (.file []) ∨ d'.get? a.location = some .full) ∧
    (d'.get? a.location = some (.file []) →
      a.FileTakes (handed pieces emitted) giveUp (a.write d' (handed pieces emitted) giveUp).1
        (a.write d' (handed pieces emitted) giveUp).2) ∧
    (d'.get? a.location = some .full →
      a.DeviceRefuses (handed pieces emitted) giveUp
        (a.write d' (handed pieces emitted) giveUp).1) := by
  obtain ⟨hpath, -, hopened⟩ := open?_cases h
  refine ⟨hpath, write_eq_writeEach h _ _, ?_, fileTakes_write h, deviceRefuses_write⟩
  rcases hopened with ⟨hl, rfl⟩ | ⟨hl, rfl⟩
  · exact Or.inl (Disk.get?_set_self (Disk.ne_nil_of_get? hl.ne_directory) _)
  · exact Or.inr hl

/-- A directory with a full device in it. -/
def narrow : Disk := ⟨[(["work"], .directory), (["work", "full.rs"], .full)], ["work"]⟩

/-- A piece that fills the buffer, a byte more and a module reach the file though the writer gives up. The
device tells the writer's reason as long as the buffer has room for all. -/
theorem write_opened_narrow :
    let file : Artifact := ⟨"ast.rs", ["work", "ast.rs"]⟩
    let device : Artifact := ⟨"full.rs", ["work", "full.rs"]⟩
    let emptied : Disk := narrow.set ["work", "ast.rs"] (.file [])
    let pieces := handed [List.replicate 8192 0, [1]] (some Preset.expr.grammar)
    open? narrow "" "ast" = .ok (file, emptied) ∧ open? narrow "" "full" = .ok (device, narrow) ∧
      file.FileTakes pieces (some "tired") (file.write emptied pieces (some "tired")).1
        (file.write emptied pieces (some "tired")).2 ∧
      (device.write narrow (handed [[1], [2]] none) (some "tired")).1 =
        .error (.artifact "full.rs" (.interrupted "tired")) ∧
      (device.write narrow pieces none).1 = .error (.artifact "full.rs" .storageFull) := by
  intro file device emptied pieces
  have hfile : open? narrow "" "ast" = .ok (file, emptied) := by rfl
  have hdevice : open? narrow "" "full" = .ok (device, narrow) := by rfl
  have hfull : narrow.get? device.location = some .full := by decide
  have hempty : emptied.get? file.location = some (.file []) := by decide
  obtain ⟨-, -, -, htakes, -⟩ :=
    write_opened hfile [List.replicate 8192 0, [1]] (some Preset.expr.grammar) (some "tired")
  obtain ⟨-, -, -, -, hshort⟩ := write_opened hdevice [[1], [2]] none (some "tired")
  obtain ⟨-, -, -, -, hlong⟩ :=
    write_opened hdevice [List.replicate 8192 0, [1]] (some Preset.expr.grammar) none
  refine ⟨hfile, hdevice, htakes hempty, ?_, ?_⟩
  · exact (hshort hfull).interrupted "tired" rfl (by decide)
  · apply (hlong hfull).refused rfl
    intro hnil
    have hmem : [1] ∈ pieces := List.mem_append_left _ (.tail _ (.head _))
    have := List.flatten_eq_nil_iff.mp hnil [1] hmem
    cases this

end Artifact

end NodeFamilies
