import TriFusion.Media.MediaPipeline

namespace TriFusion.Media

open Foundation

variable {ω : Type}

namespace PipelineBuilder

def visibleOnly (media : MediaConfig) : PipelineConfig where
  type := .visibleOnly
  requireVisible := true
  requireComposite := false
  useDecoder := false
  useEncoder := false
  useFormatConvert := false
  encoderInputFormat := .nv12
  passthroughEncoded := true
  media := media

def compositeOnlyAuto (media : MediaConfig) : PipelineConfig where
  type := .compositeOnly
  requireVisible := false
  requireComposite := true
  useDecoder := true
  useEncoder := true
  useFormatConvert := true
  encoderInputFormat := .nv12
  passthroughEncoded := false
  media := media

def visibleCompositeFusionPlaceholder (media : MediaConfig) : PipelineConfig where
  type := .visibleCompositeFusion
  requireVisible := true
  requireComposite := true
  useDecoder := true
  useEncoder := true
  useFormatConvert := true
  encoderInputFormat := .nv12
  passthroughEncoded := false
  media := media

/-- A pipeline whose `init` fails is destroyed, which stops it. -/
def build (io : MediaIo ω) (config : PipelineConfig) (context : PipelineContext) (s : Shared ω) :
    Result MediaPipeline × Shared ω :=
  match MediaPipeline.init io config context {} s with
  | (.error e, pipeline, s) => (.rethrow e, (pipeline.stop io s).2)
  | (.ok (), pipeline, s) => (.ok pipeline, s)

end PipelineBuilder

end TriFusion.Media
