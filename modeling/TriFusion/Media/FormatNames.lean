import TriFusion.Device.CameraDevice
import TriFusion.Media.GStreamerPipelineConfigManager

namespace TriFusion.Foundation

theorem toLower_cases (c : Char) :
    toLower c = c ∨ ∃ n < 26, c = Char.ofNat (65 + n) ∧ toLower c = Char.ofNat (97 + n) := by
  by_cases h : 'A' ≤ c ∧ c ≤ 'Z'
  · right
    have hlo : 65 ≤ c.toNat := h.1
    have hhi : c.toNat ≤ 90 := h.2
    refine ⟨c.toNat - 65, by omega, ?_, ?_⟩
    · rw [show 65 + (c.toNat - 65) = c.toNat by omega, Char.ofNat_toNat]
    · rw [toLower, if_pos h]
      congr 1
      omega
  · exact .inl (if_neg h)

theorem letters_kept : ∀ n < 26,
    isSpace (Char.ofNat (97 + n)) = isSpace (Char.ofNat (65 + n)) ∧
      (Char.ofNat (97 + n) = '"' ↔ Char.ofNat (65 + n) = '"') ∧
      (Char.ofNat (97 + n) = '\'' ↔ Char.ofNat (65 + n) = '\'') := by
  decide

@[simp] theorem isSpace_toLower (c : Char) : isSpace (toLower c) = isSpace c := by
  rcases toLower_cases c with h | ⟨n, hn, hc, hl⟩
  · rw [h]
  · rw [hl, hc]
    exact (letters_kept n hn).1

theorem toLower_eq_quote (c : Char) :
    (toLower c = '"' ↔ c = '"') ∧ (toLower c = '\'' ↔ c = '\'') := by
  rcases toLower_cases c with h | ⟨n, hn, hc, hl⟩
  · rw [h]
    exact ⟨Iff.rfl, Iff.rfl⟩
  · rw [hl, hc]
    exact (letters_kept n hn).2

theorem dropWhile_isSpace_lower (s : Text) :
    (lower s).dropWhile isSpace = lower (s.dropWhile isSpace) := by
  unfold lower
  rw [List.dropWhile_map]
  congr 2
  funext c
  exact isSpace_toLower c

theorem trim_lower (s : Text) : Str.trim (lower s) = lower (Str.trim s) := by
  have hr : ∀ t : Text, (lower t).reverse = lower t.reverse := fun t ↦ List.map_reverse.symm
  simp only [Str.trim, dropWhile_isSpace_lower, hr]

theorem unquote_lower (s : Text) : Str.unquote (lower s) = lower (Str.unquote s) := by
  have hl : (lower (Str.trim s)).length = (Str.trim s).length := List.length_map _
  have hq : ∀ o : Option Char, (o.map toLower = some '"' ↔ o = some '"') ∧
      (o.map toLower = some '\'' ↔ o = some '\'') := by
    intro o
    cases o with
    | none => simp
    | some c => simp [toLower_eq_quote]
  have hh : (lower (Str.trim s)).head? = (Str.trim s).head?.map toLower := List.head?_map
  have hg : (lower (Str.trim s)).getLast? = (Str.trim s).getLast?.map toLower := List.getLast?_map
  simp only [Str.unquote, trim_lower, hl, hh, hg, hq]
  split
  · simp [lower, List.map_take]
  · rfl

end TriFusion.Foundation

namespace TriFusion.Media

open Foundation Hardware Device

def rawPixelformat (raw : Text) : Option UInt32 :=
  if raw = "MJPG".toList then some V4L2_PIX_FMT_MJPEG
  else if raw = "YUY2".toList then some V4L2_PIX_FMT_YUYV
  else if raw = "NV12".toList then some V4L2_PIX_FMT_NV12
  else none

/-- The V4L2 path takes the camera format to a pixel format exactly when the
GStreamer path does, whatever the valid size and rate. -/
def ReadAlike (text : Text) : Prop :=
  ∀ cfg : CameraEndpointConfig, cfg.format = text → 0 < cfg.width → 0 < cfg.height → 0 < cfg.fps →
    ∀ pix, rawPixelformat (GStreamerPipelineConfigManager.normalizeRawFormat cfg.format) =
        some pix ↔
      ∃ format, makeCaptureFormat cfg = .ok format ∧ format.pixelformat = pix

def v4l2Names : List Text := ["mjpeg", "mjpg", "yuyv", "yuyv422", "nv12"]

def gstreamerNames : List Text :=
  ["mjpeg", "mjpg", "jpeg", "image/jpeg", "yuyv", "yuyv422", "yuy2", "yuyv 4:2:2", "nv12"]

def SharedName (text : Text) : Prop :=
  lower text ∈ v4l2Names ∨ (text ≠ [] ∧ lower (Str.unquote text) ∉ gstreamerNames)

def v4l2Pixelformat (text : Text) : Option UInt32 :=
  if lower text = "mjpeg".toList ∨ lower text = "mjpg".toList then some V4L2_PIX_FMT_MJPEG
  else if lower text = "yuyv".toList ∨ lower text = "yuyv422".toList then some V4L2_PIX_FMT_YUYV
  else if lower text = "nv12".toList then some V4L2_PIX_FMT_NV12
  else none

variable {text : Text}

theorem makeCaptureFormat_pixelformat {cfg : CameraEndpointConfig} (hw : 0 < cfg.width)
    (hh : 0 < cfg.height) (hf : 0 < cfg.fps) (pix : UInt32) :
    (∃ format, makeCaptureFormat cfg = .ok format ∧ format.pixelformat = pix) ↔
      v4l2Pixelformat cfg.format = some pix := by
  have hv : ¬(cfg.width ≤ 0 ∨ cfg.height ≤ 0 ∨ cfg.fps ≤ 0) := by
    simp only [Int32.le_iff_toInt_le, Int32.lt_iff_toInt_lt] at *
    omega
  simp only [makeCaptureFormat, hv, if_false, v4l2Pixelformat]
  split
  · simp
  split
  · simp
  split
  · simp
  · simp [Result.fail]

theorem rawPixelformat_of_unknown (h : lower (Str.unquote text) ∉ gstreamerNames) :
    rawPixelformat text = none := by
  have hm : text ≠ "MJPG".toList := by
    intro he
    rw [he] at h
    exact h (by decide)
  have hy : text ≠ "YUY2".toList := by
    intro he
    rw [he] at h
    exact h (by decide)
  have hn : text ≠ "NV12".toList := by
    intro he
    rw [he] at h
    exact h (by decide)
  simp only [rawPixelformat, hm, hy, hn, if_false]

theorem normalizeRawFormat_of_unknown (h : lower (Str.unquote text) ∉ gstreamerNames) :
    rawPixelformat (GStreamerPipelineConfigManager.normalizeRawFormat text) =
      if text = [] then some V4L2_PIX_FMT_YUYV else none := by
  have hr := rawPixelformat_of_unknown h
  simp only [gstreamerNames, List.mem_cons, List.not_mem_nil, or_false, not_or] at h
  simp only [GStreamerPipelineConfigManager.normalizeRawFormat,
    GStreamerPipelineBuilder.jpegNames, List.mem_cons, List.not_mem_nil, or_false, h, if_false]
  split
  · rename_i hu
    have hne : text ≠ [] := by
      intro he
      rw [he] at hu
      exact absurd hu (by decide)
    rw [if_neg hne]
    decide
  · split
    · decide
    · exact hr

theorem normalizeRawFormat_of_mem_v4l2Names (h : lower text ∈ v4l2Names) :
    rawPixelformat (GStreamerPipelineConfigManager.normalizeRawFormat text) =
      v4l2Pixelformat text := by
  have hq : ∀ name ∈ v4l2Names, Str.unquote name = name := by decide
  have hn : lower (Str.unquote text) = lower text := by
    rw [← unquote_lower, hq _ h]
  simp only [GStreamerPipelineConfigManager.normalizeRawFormat, hn, v4l2Pixelformat]
  simp only [v4l2Names, List.mem_cons, List.not_mem_nil, or_false] at h
  rcases h with h | h | h | h | h <;> simp only [h] <;> rfl

theorem v4l2Pixelformat_eq_none : v4l2Pixelformat text = none ↔ lower text ∉ v4l2Names := by
  have hm : lower text ∈ v4l2Names ↔
      (lower text = "mjpeg".toList ∨ lower text = "mjpg".toList) ∨
        (lower text = "yuyv".toList ∨ lower text = "yuyv422".toList) ∨
          lower text = "nv12".toList := by
    simp only [v4l2Names, List.mem_cons, List.not_mem_nil, or_false, or_assoc]
  rw [hm, v4l2Pixelformat]
  split
  · rename_i h
    exact iff_of_false (Option.some_ne_none _) fun hn ↦ hn (.inl h)
  split
  · rename_i h
    exact iff_of_false (Option.some_ne_none _) fun hn ↦ hn (.inr (.inl h))
  split
  · rename_i h
    exact iff_of_false (Option.some_ne_none _) fun hn ↦ hn (.inr (.inr h))
  · rename_i h₁ h₂ h₃
    refine iff_of_true rfl fun h ↦ ?_
    rcases h with h | h | h
    · exact h₁ h
    · exact h₂ h
    · exact h₃ h

theorem normalizeRawFormat_eq_none :
    rawPixelformat (GStreamerPipelineConfigManager.normalizeRawFormat text) = none ↔
      text ≠ [] ∧ lower (Str.unquote text) ∉ gstreamerNames := by
  by_cases h : lower (Str.unquote text) ∈ gstreamerNames
  · refine iff_of_false ?_ fun hn ↦ hn.2 h
    simp only [GStreamerPipelineConfigManager.normalizeRawFormat]
    simp only [gstreamerNames, List.mem_cons, List.not_mem_nil, or_false] at h
    rcases h with h | h | h | h | h | h | h | h | h <;> simp only [h] <;>
      exact Option.some_ne_none _
  · rw [normalizeRawFormat_of_unknown h]
    by_cases he : text = []
    · simp [he]
    · simp [he, h]

theorem exists_endpoint (text : Text) :
    ∃ cfg : CameraEndpointConfig,
      cfg.format = text ∧ 0 < cfg.width ∧ 0 < cfg.height ∧ 0 < cfg.fps := by
  have hone : (0 : Int32) < 1 := by decide
  exact ⟨{ format := text, width := 1, height := 1, fps := 1 }, rfl, hone, hone, hone⟩

/-- The two paths read a camera format alike exactly when they share its name. -/
theorem formats_read_alike_iff (text : Text) : ReadAlike text ↔ SharedName text := by
  have hread : ReadAlike text ↔
      rawPixelformat (GStreamerPipelineConfigManager.normalizeRawFormat text) =
        v4l2Pixelformat text := by
    constructor
    · intro h
      obtain ⟨cfg, hf, hw, hh, hr⟩ := exists_endpoint text
      rw [← hf]
      apply Option.ext
      intro pix
      rw [h cfg hf hw hh hr, makeCaptureFormat_pixelformat hw hh hr]
    · intro h cfg hf hw hh hr pix
      rw [makeCaptureFormat_pixelformat hw hh hr, hf, h]
  rw [hread, SharedName]
  by_cases hm : lower text ∈ v4l2Names
  · exact iff_of_true (normalizeRawFormat_of_mem_v4l2Names hm) (.inl hm)
  · rw [v4l2Pixelformat_eq_none.mpr hm, normalizeRawFormat_eq_none]
    exact ⟨.inr, fun h ↦ h.resolve_left hm⟩

/-- The GStreamer path takes `yuy2`, its own name of the format, and the V4L2 path does not. -/
theorem yuy2_not_read_alike : ¬ReadAlike "yuy2" := by
  intro h
  have hc := (h { format := "yuy2", width := 1, height := 1, fps := 1 } rfl (by decide) (by decide)
    (by decide) V4L2_PIX_FMT_YUYV).mp (by decide)
  obtain ⟨format, hf, -⟩ := hc
  cases hf

end TriFusion.Media
