import TriFusion.Foundation.Result
import Mathlib.Data.PNat.Defs

namespace TriFusion.Hardware

open Foundation

variable {ω : Type}

/-- The kernel calls of `SerialPort` on its open descriptor, over a world `ω`
that holds everything outside the program. A write answers with the number of
bytes taken; the answers the loop only repeats (EINTR, nothing taken) are left
out. A poll answers whether there is input. Errors carry the `strerror` text. -/
structure Tty (ω : Type) where
  write : List UInt8 → ω → Except Text ℕ+ × ω
  poll : Int32 → ω → Except Text Bool × ω
  read : ℕ → ω → Except Text (List UInt8) × ω

namespace SerialPort

variable (tty : Tty ω)

def writeLoop (bytes : List UInt8) (w : ω) : Result Unit × ω :=
  if bytes = [] then (.ok (), w)
  else
    match tty.write bytes w with
    | (.error errno, w) => (.fail .serialWriteFailed ("serial write: ".toList ++ errno), w)
    | (.ok n, w) => writeLoop (bytes.drop n) w
termination_by bytes.length
decreasing_by
  have hb : bytes.length ≠ 0 := by simpa using ‹¬ bytes = []›
  have hn := n.pos
  rw [List.length_drop]
  omega

def writeBytes (isOpen : Bool) (bytes : List UInt8) (w : ω) : Result Unit × ω :=
  if !isOpen then (.fail .notInitialized "serial port not open", w)
  else if bytes = [] then (.fail .invalidArgument "serial write bytes empty", w)
  else writeLoop tty bytes w

/-- The buffer has room for `maxBytes`, so a read never delivers more. -/
def readBytes (isOpen : Bool) (maxBytes : ℕ) (timeoutMs : Int32) (w : ω) :
    Result (List UInt8) × ω :=
  if !isOpen then (.fail .notInitialized "serial port not open", w)
  else if maxBytes = 0 then (.fail .invalidArgument "maxBytes is zero", w)
  else
    match tty.poll timeoutMs w with
    | (.error errno, w) => (.fail .ioError ("serial poll: ".toList ++ errno), w)
    | (.ok false, w) => (.fail .serialReadTimeout "serial read timeout", w)
    | (.ok true, w) =>
      match tty.read maxBytes w with
      | (.error errno, w) => (.fail .ioError ("serial read: ".toList ++ errno), w)
      | (.ok out, w) => (.ok (out.take maxBytes), w)

end SerialPort

end TriFusion.Hardware
