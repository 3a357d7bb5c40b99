import Mathlib.Data.Rat.Lemmas
import Mathlib.Algebra.Order.Field.Rat
import Mathlib.Tactic.Linarith
import Mathlib.Tactic.NormNum
import Mathlib.Tactic.FieldSimp
import Mathlib.Tactic.Ring
import Mathlib.Tactic.SplitIfs

/-! # The canvas on which an avatar is cropped

`AvatarCropCanvas` draws the picture moved and scaled, with a round hole over the middle
of the canvas. Every event ends in `clampOffset`, after which the picture lies under the
whole hole, whatever was done to it before.
-/

namespace CCMeeting

/-! ## The picture and the canvas -/

/-- A `QImage` that is not null. -/
structure Image where
  width : ℕ
  height : ℕ
  width_pos : 0 < width
  height_pos : 0 < height

/-- The size of a widget. -/
structure CanvasSize where
  width : ℕ
  height : ℕ
  width_pos : 0 < width
  height_pos : 0 < height

/-- `QPointF`. -/
abbrev PointF := ℚ × ℚ

/-- `QRectF`. -/
structure RectF where
  left : ℚ
  top : ℚ
  width : ℚ
  height : ℚ
deriving DecidableEq

def RectF.right (r : RectF) : ℚ := r.left + r.width

def RectF.bottom (r : RectF) : ℚ := r.top + r.height

/-- `qBound`. -/
def qBound (lower value upper : ℚ) : ℚ := max lower (min value upper)

/-- `qFuzzyCompare`. -/
def qFuzzyCompare (x y : ℚ) : Bool := |x - y| * 10 ^ 12 ≤ min |x| |y|

/-- `kMaxZoomFactor`. -/
def kMaxZoomFactor : ℚ := 6

/-- `kWheelFactor`. -/
def kWheelFactor : ℚ := 1.12

/-- `AvatarCropCanvas`. -/
structure Canvas where
  size : CanvasSize
  image : Option Image
  offset : PointF
  scale : ℚ
  dragging : Bool
  lastMousePos : PointF

namespace Canvas

/-- `AvatarCropCanvas::AvatarCropCanvas`, on a widget of some size. -/
def init (size : CanvasSize) : Canvas where
  size
  image := none
  offset := (0, 0)
  scale := 1
  dragging := false
  lastMousePos := (0, 0)

/-- `AvatarCropCanvas::cropRadiusPx`. -/
def cropRadiusPx (c : Canvas) : ℚ := (min c.size.width c.size.height : ℕ) * 0.38

/-- `AvatarCropCanvas::cropCenterPx`. -/
def cropCenterPx (c : Canvas) : PointF := (c.size.width * 0.5, c.size.height * 0.5)

/-- `cropRect` of `clampOffset` and `cropWidgetRect` of `croppedImage`. -/
def cropRect (c : Canvas) : RectF where
  left := c.cropCenterPx.1 - c.cropRadiusPx
  top := c.cropCenterPx.2 - c.cropRadiusPx
  width := c.cropRadiusPx * 2
  height := c.cropRadiusPx * 2

/-- `AvatarCropCanvas::coverMinScale`. -/
def coverMinScale (c : Canvas) : ℚ :=
  match c.image with
  | none => 1
  | some image =>
    let diameter := c.cropRadiusPx * 2
    max (diameter / image.width) (diameter / image.height)

/-- A coordinate of the offset in `clampOffset`: a picture that is hardly longer than
the hole is centred, another one is kept over both its ends. -/
def clampAxis (center start length draw offset : ℚ) : ℚ :=
  if draw ≤ length + 0.5 then center - draw * 0.5 else qBound (start + length - draw) offset start

/-- `AvatarCropCanvas::clampOffset`. -/
def clampOffset (c : Canvas) : Canvas :=
  match c.image with
  | none => c
  | some image =>
    let drawW := image.width * c.scale
    let drawH := image.height * c.scale
    { c with
      offset :=
        (clampAxis c.cropCenterPx.1 c.cropRect.left c.cropRect.width drawW c.offset.1,
          clampAxis c.cropCenterPx.2 c.cropRect.top c.cropRect.height drawH c.offset.2) }

/-- `AvatarCropCanvas::resetTransform`. -/
def resetTransform (c : Canvas) : Canvas :=
  match c.image with
  | none => { c with scale := 1, offset := (0, 0) }
  | some image =>
    let scale := c.coverMinScale
    let drawW := image.width * scale
    let drawH := image.height * scale
    let center := c.cropCenterPx
    { c with
      scale
      offset := (center.1 - drawW * 0.5, center.2 - drawH * 0.5) }.clampOffset

/-- `AvatarCropCanvas::setImage`. -/
def setImage (c : Canvas) (image : Option Image) : Canvas := { c with image }.resetTransform

/-- `AvatarCropCanvas::zoomAt`. -/
def zoomAt (c : Canvas) (anchor : PointF) (factor : ℚ) : Canvas :=
  match c.image with
  | none => c
  | some _ =>
    let oldScale := c.scale
    let minScale := c.coverMinScale
    let maxScale := minScale * kMaxZoomFactor
    let c := { c with scale := qBound minScale (c.scale * factor) maxScale }
    if qFuzzyCompare oldScale c.scale then c.clampOffset
    else
      let ratio := c.scale / oldScale
      { c with offset := anchor - ratio • (anchor - c.offset) }.clampOffset

/-- `AvatarCropCanvas::mousePressEvent`. -/
def mousePress (c : Canvas) (position : PointF) : Canvas :=
  if c.image.isSome then { c with dragging := true, lastMousePos := position } else c

/-- `AvatarCropCanvas::mouseMoveEvent`. -/
def mouseMove (c : Canvas) (position : PointF) : Canvas :=
  if c.dragging then
    { c with
      offset := c.offset + (position - c.lastMousePos)
      lastMousePos := position }.clampOffset
  else c

/-- `AvatarCropCanvas::mouseReleaseEvent`. -/
def mouseRelease (c : Canvas) : Canvas := { c with dragging := false }

/-- `AvatarCropCanvas::wheelEvent`. -/
def wheel (c : Canvas) (position : PointF) (angleDelta : ℤ) : Canvas :=
  if c.image.isSome then
    c.zoomAt position (if 0 < angleDelta then kWheelFactor else 1 / kWheelFactor)
  else c

/-- `AvatarCropCanvas::zoomIn`. -/
def zoomIn (c : Canvas) : Canvas := c.zoomAt c.cropCenterPx kWheelFactor

/-- `AvatarCropCanvas::zoomOut`. -/
def zoomOut (c : Canvas) : Canvas := c.zoomAt c.cropCenterPx (1 / kWheelFactor)

/-- `AvatarCropCanvas::resizeEvent`. -/
def resize (c : Canvas) (size : CanvasSize) : Canvas :=
  let c := { c with size }
  if c.image.isSome then
    let minScale := c.coverMinScale
    { c with scale := if c.scale < minScale then minScale else c.scale }.clampOffset
  else c

/-- `srcRect` of `croppedImage`: the part of the picture that is drawn on the square. -/
def srcRect (c : Canvas) : RectF where
  left := (c.cropRect.left - c.offset.1) / c.scale
  top := (c.cropRect.top - c.offset.2) / c.scale
  width := c.cropRect.width / c.scale
  height := c.cropRect.height / c.scale

/-- `AvatarCropCanvas::croppedImage`: the picture, the part of it and the size of the square. -/
def croppedImage (c : Canvas) (outputSize : ℤ) : Option (Image × RectF × ℤ) :=
  match c.image with
  | none => none
  | some image => if outputSize ≤ 0 then none else some (image, c.srcRect, outputSize)

end Canvas

/-- What can happen to the canvas. -/
inductive CanvasEvent where
  | setImage (image : Option Image)
  | resize (size : CanvasSize)
  | mousePress (position : PointF)
  | mouseMove (position : PointF)
  | mouseRelease
  | wheel (position : PointF) (angleDelta : ℤ)
  | zoomIn
  | zoomOut
  | zoomAt (anchor : PointF) (factor : ℚ)

def Canvas.handle (c : Canvas) : CanvasEvent → Canvas
  | .setImage image => c.setImage image
  | .resize size => c.resize size
  | .mousePress position => c.mousePress position
  | .mouseMove position => c.mouseMove position
  | .mouseRelease => c.mouseRelease
  | .wheel position angleDelta => c.wheel position angleDelta
  | .zoomIn => c.zoomIn
  | .zoomOut => c.zoomOut
  | .zoomAt anchor factor => c.zoomAt anchor factor

/-! ## One axis -/

/-- A picture from `offset` on covers the hole. -/
def Covers (start length draw offset : ℚ) : Prop :=
  offset ≤ start ∧ start + length ≤ offset + draw

/-- A picture as long as the hole covers it once the offset is clamped. -/
theorem clampAxis_covers {center start length draw : ℚ} (hcenter : center = start + length / 2)
    (h : length ≤ draw) (offset : ℚ) :
    Covers start length draw (Canvas.clampAxis center start length draw offset) := by
  unfold Canvas.clampAxis
  split_ifs with hshort
  · constructor <;> linarith
  · constructor
    · exact max_le (by linarith) (min_le_right _ _)
    · have hlower := le_max_left (start + length - draw) (min offset start)
      unfold qBound
      linarith

/-- What is cut out of a picture that covers the hole lies in the picture. -/
theorem Covers.cut {start length offset scale : ℚ} {side : ℕ} (hscale : 0 < scale)
    (h : Covers start length (side * scale) offset) :
    0 ≤ (start - offset) / scale ∧ (start - offset) / scale + length / scale ≤ side := by
  rcases h with ⟨hstart, hend⟩
  constructor
  · exact div_nonneg (by linarith) hscale.le
  · rw [← add_div, div_le_iff₀ hscale]
    linarith

/-! ## The invariant -/

namespace Canvas

/-- The picture is drawn large enough, and it lies under the whole hole. -/
structure Filled (c : Canvas) : Prop where
  scale : c.coverMinScale ≤ c.scale
  covers : ∀ image, c.image = some image →
    Covers c.cropRect.left c.cropRect.width (image.width * c.scale) c.offset.1 ∧
      Covers c.cropRect.top c.cropRect.height (image.height * c.scale) c.offset.2

theorem cropRadiusPx_pos (c : Canvas) : 0 < c.cropRadiusPx := by
  have hmin : 0 < min c.size.width c.size.height := lt_min c.size.width_pos c.size.height_pos
  have hcast : (0 : ℚ) < (min c.size.width c.size.height : ℕ) := by exact_mod_cast hmin
  unfold cropRadiusPx
  linarith

theorem coverMinScale_pos (c : Canvas) : 0 < c.coverMinScale := by
  unfold coverMinScale
  cases c.image with
  | none => exact zero_lt_one
  | some image =>
    have hwidth : (0 : ℚ) < image.width := by exact_mod_cast image.width_pos
    have hradius := c.cropRadiusPx_pos
    exact lt_max_of_lt_left (div_pos (by linarith) hwidth)

/-- The hole is in the middle. -/
theorem cropCenterPx_eq (c : Canvas) :
    c.cropCenterPx.1 = c.cropRect.left + c.cropRect.width / 2 ∧
      c.cropCenterPx.2 = c.cropRect.top + c.cropRect.height / 2 := by
  unfold cropRect
  constructor <;> ring

/-- The smallest scale makes both sides as long as the hole. -/
theorem length_le_draw {c : Canvas} {image : Image} (himage : c.image = some image)
    (hscale : c.coverMinScale ≤ c.scale) :
    c.cropRect.width ≤ image.width * c.scale ∧ c.cropRect.height ≤ image.height * c.scale := by
  have hside : ∀ side : ℕ, 0 < side → c.cropRadiusPx * 2 / side ≤ c.scale →
      c.cropRadiusPx * 2 ≤ side * c.scale := by
    intro side hside h
    have hcast : (0 : ℚ) < side := by exact_mod_cast hside
    rw [div_le_iff₀ hcast] at h
    linarith
  unfold coverMinScale at hscale
  rw [himage] at hscale
  constructor
  · exact hside _ image.width_pos ((le_max_left _ _).trans hscale)
  · exact hside _ image.height_pos ((le_max_right _ _).trans hscale)

/-- Nothing but the offset is clamped. -/
theorem clampOffset_eq (c : Canvas) :
    c.clampOffset = { c with offset := c.clampOffset.offset } := by
  unfold clampOffset
  split <;> rfl

/-- Whatever has become of the offset. -/
theorem filled_clampOffset {c : Canvas} (h : c.coverMinScale ≤ c.scale) :
    c.clampOffset.Filled := by
  constructor
  · rw [clampOffset_eq]
    exact h
  · intro image himage
    rw [clampOffset_eq] at himage
    replace himage : c.image = some image := himage
    have hdraw := length_le_draw himage h
    have hoffset : c.clampOffset.offset =
        (clampAxis c.cropCenterPx.1 c.cropRect.left c.cropRect.width (image.width * c.scale)
            c.offset.1,
          clampAxis c.cropCenterPx.2 c.cropRect.top c.cropRect.height (image.height * c.scale)
            c.offset.2) := by
      unfold clampOffset
      rw [himage]
    rw [clampOffset_eq, hoffset]
    constructor
    · exact clampAxis_covers c.cropCenterPx_eq.1 hdraw.1 _
    · exact clampAxis_covers c.cropCenterPx_eq.2 hdraw.2 _

theorem filled_of_image_eq_none {c : Canvas} (himage : c.image = none) (hscale : 1 ≤ c.scale) :
    c.Filled := by
  constructor
  · unfold coverMinScale
    rw [himage]
    exact hscale
  · intro image h
    rw [himage] at h
    cases h

theorem image_clampOffset (c : Canvas) : c.clampOffset.image = c.image := by
  rw [clampOffset_eq]

theorem image_zoomAt (c : Canvas) (anchor : PointF) (factor : ℚ) :
    (c.zoomAt anchor factor).image = c.image := by
  unfold zoomAt
  split
  · rfl
  · dsimp only
    split_ifs <;> exact image_clampOffset _

/-- A new picture is given by `setImage` alone. -/
theorem image_handle (c : Canvas) (event : CanvasEvent) :
    (c.handle event).image =
      match event with
      | .setImage image => image
      | _ => c.image := by
  cases event with
  | setImage image =>
    cases image with
    | none => rfl
    | some image => exact image_clampOffset _
  | resize size =>
    show (c.resize size).image = c.image
    unfold resize
    dsimp only
    split_ifs
    · exact image_clampOffset _
    · exact image_clampOffset _
    · rfl
  | mousePress position =>
    show (c.mousePress position).image = c.image
    unfold mousePress
    split_ifs <;> rfl
  | mouseMove position =>
    show (c.mouseMove position).image = c.image
    unfold mouseMove
    split_ifs
    · exact image_clampOffset _
    · rfl
  | mouseRelease => rfl
  | wheel position angleDelta =>
    show (c.wheel position angleDelta).image = c.image
    unfold wheel
    by_cases himage : c.image.isSome = true
    · rw [if_pos himage]
      exact c.image_zoomAt _ _
    · rw [if_neg himage]
  | zoomIn => exact c.image_zoomAt _ _
  | zoomOut => exact c.image_zoomAt _ _
  | zoomAt anchor factor => exact c.image_zoomAt _ _

/-! One lemma for each event. -/

theorem filled_init (size : CanvasSize) : (init size).Filled :=
  filled_of_image_eq_none rfl (le_refl _)

theorem filled_setImage (c : Canvas) (image : Option Image) : (c.setImage image).Filled := by
  cases image with
  | none => exact filled_of_image_eq_none rfl (le_refl _)
  | some image =>
    unfold setImage resetTransform
    exact filled_clampOffset (le_refl ({ c with image := some image } : Canvas).coverMinScale)

/-- Also where the scale is as good as the old one, and the offset is left alone. -/
theorem filled_zoomAt {c : Canvas} (h : c.Filled) (anchor : PointF) (factor : ℚ) :
    (c.zoomAt anchor factor).Filled := by
  unfold zoomAt
  split
  · exact h
  · have hscale := le_max_left c.coverMinScale
      (min (c.scale * factor) (c.coverMinScale * kMaxZoomFactor))
    dsimp only
    split_ifs
    · exact filled_clampOffset hscale
    · exact filled_clampOffset hscale

theorem filled_mouseMove {c : Canvas} (h : c.Filled) (position : PointF) :
    (c.mouseMove position).Filled := by
  unfold mouseMove
  split_ifs
  · apply filled_clampOffset
    exact h.scale
  · exact h

/-- A smaller hole leaves the scale, a larger one may raise it. -/
theorem filled_resize {c : Canvas} (h : c.Filled) (size : CanvasSize) : (c.resize size).Filled := by
  unfold resize
  dsimp only
  split_ifs with himage hsmall
  · exact filled_clampOffset (le_refl _)
  · exact filled_clampOffset (not_lt.mp hsmall)
  · have hnone : c.image = none := Option.not_isSome_iff_eq_none.mp himage
    have hscale := h.scale
    unfold coverMinScale at hscale
    rw [hnone] at hscale
    exact filled_of_image_eq_none hnone hscale

theorem filled_handle {c : Canvas} (h : c.Filled) (event : CanvasEvent) :
    (c.handle event).Filled := by
  cases event with
  | setImage image => exact filled_setImage c image
  | resize size => exact filled_resize h size
  | mousePress position =>
    unfold handle mousePress
    split_ifs
    · exact ⟨h.scale, h.covers⟩
    · exact h
  | mouseMove position => exact filled_mouseMove h position
  | mouseRelease => exact ⟨h.scale, h.covers⟩
  | wheel position angleDelta =>
    show (c.wheel position angleDelta).Filled
    unfold wheel
    by_cases himage : c.image.isSome = true
    · rw [if_pos himage]
      exact filled_zoomAt h position _
    · rw [if_neg himage]
      exact h
  | zoomIn => exact filled_zoomAt h _ _
  | zoomOut => exact filled_zoomAt h _ _
  | zoomAt anchor factor => exact filled_zoomAt h anchor factor

theorem filled_foldl {c : Canvas} (h : c.Filled) (events : List CanvasEvent) :
    (events.foldl handle c).Filled := by
  induction events generalizing c with
  | nil => exact h
  | cons event events ih => exact ih (filled_handle h event)

end Canvas

/-- After any events the picture is scaled to cover the hole, and what is cropped is a
part of it. -/
theorem cropped_within_image (size : CanvasSize) (events : List CanvasEvent) :
    let c := events.foldl Canvas.handle (Canvas.init size)
    c.coverMinScale ≤ c.scale ∧
      ∀ image outputSize, c.image = some image → 0 < outputSize →
        ∃ src, c.croppedImage outputSize = some (image, src, outputSize) ∧
          (0 ≤ src.left ∧ src.right ≤ image.width) ∧ 0 ≤ src.top ∧ src.bottom ≤ image.height := by
  intro c
  have hfilled : c.Filled := Canvas.filled_foldl (Canvas.filled_init size) events
  refine ⟨hfilled.scale, ?_⟩
  intro image outputSize himage hsize
  have hpos : 0 < c.scale := c.coverMinScale_pos.trans_le hfilled.scale
  rcases hfilled.covers image himage with ⟨hx, hy⟩
  refine ⟨c.srcRect, ?_, hx.cut hpos, hy.cut hpos⟩
  unfold Canvas.croppedImage
  rw [himage]
  exact if_neg (not_le.mpr hsize)

/-- A picture twice as wide as it is high. -/
def wideImage : Image := ⟨200, 100, by decide, by decide⟩

/-- It is dragged to the right by more than there is, zoomed at a corner and shown on a
canvas of another size. -/
def draggedCanvas : Canvas :=
  [.setImage (some wideImage), .mousePress (10, 10), .mouseMove (500, 20), .zoomAt (0, 0) 2,
    .resize ⟨400, 300, by decide, by decide⟩].foldl Canvas.handle
    (Canvas.init ⟨320, 320, by decide, by decide⟩)

theorem cropped_within_image_of_drag :
    ∃ src, draggedCanvas.croppedImage 512 = some (wideImage, src, 512) ∧
      (0 ≤ src.left ∧ src.right ≤ 200) ∧ 0 ≤ src.top ∧ src.bottom ≤ 100 := by
  have himage : draggedCanvas.image = some wideImage := by
    simp only [draggedCanvas, List.foldl, Canvas.image_handle]
  exact (cropped_within_image _ _).2 wideImage 512 himage (by norm_num)

end CCMeeting
