import TriFusion.Library.ProgramStream
import TriFusion.Protocol.AnnexBFrames
import TriFusion.Protocol.PsOverRtp

namespace TriFusion.Protocol

open Foundation Library

variable {ω : Type}

namespace Gb28181PlayProbe

/-! A pack that `makePsPacket` makes, read back. -/

end Gb28181PlayProbe

end TriFusion.Protocol
