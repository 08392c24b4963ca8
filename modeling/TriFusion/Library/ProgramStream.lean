import TriFusion.Library.BigEndian

namespace TriFusion.Library.ProgramStream

/-! What a demultiplexer reads in one pack of a program stream. -/

variable {stream : UInt8}

end TriFusion.Library.ProgramStream
