import TriFusion.Foundation.Result

namespace TriFusion.Foundation

/-- The files of the system. `read` is none when the file cannot be opened, `write` when
it cannot be opened for writing; a file that was written holds the text written. -/
structure FileIo (ω : Type) where
  read : Text → ω → Option Text
  write : Text → Text → ω → Option ω
  read_write : ∀ {path text : Text} {w w' : ω}, write path text w = some w' →
    read path w' = some text

variable {ω : Type}

def FileIo.readText (io : FileIo ω) (path : Text) (w : ω) : Result Text :=
  match io.read path w with
  | none => Result.fail .ioError ("failed to open file: ".toList ++ path)
  | some text => .ok text

def FileIo.writeText (io : FileIo ω) (path text : Text) (w : ω) : Result Unit × ω :=
  match io.write path text w with
  | none => (Result.fail .ioError ("failed to write file: ".toList ++ path), w)
  | some w' => (.ok (), w')

theorem FileIo.readText_eq_ok {io : FileIo ω} {path text : Text} {w : ω} :
    io.readText path w = .ok text ↔ io.read path w = some text := by
  unfold readText
  cases io.read path w with
  | none => exact ⟨fun h ↦ (nomatch h), fun h ↦ (nomatch h)⟩
  | some t => exact ⟨fun h ↦ congrArg some (Except.ok.inj h),
      fun h ↦ congrArg _ (Option.some.inj h)⟩

theorem FileIo.readText_written {io : FileIo ω} {path text : Text} {w w' : ω}
    (h : io.writeText path text w = (.ok (), w')) : io.readText path w' = .ok text := by
  unfold writeText at h
  cases hw : io.write path text w with
  | none =>
    rw [hw] at h
    cases (Prod.mk.inj h).1
  | some written =>
    rw [hw] at h
    obtain ⟨-, rfl⟩ := Prod.mk.inj h
    rw [readText, io.read_write hw]

end TriFusion.Foundation
