/-
This file asks whether a search around a location finds the streamables around it.

The search offsets the centre to the north-east and to the south-west and compares latitudes
and longitudes as numbers. Longitudes go around a circle, so a box that crosses the date line
misses what lies behind it. The search is right exactly if its box reaches the date line from
neither side, or from both. Doubles are read as the numbers that they stand for.
-/

import Mathlib.Tactic.Positivity
import Mathlib.Tactic.Ring
import GraffiTab.HiddenItems
import GraffiTab.Library.Arcs
import GraffiTab.Listings

namespace GraffiTab

open Tables Arcs

namespace GPSUtils

/-- The radius of the earth in metres. -/
def R : Rat := 6378137

/-- The double `Math.PI`. -/
def PI : Rat := 884279719003555 / 281474976710656

section Offsets

-- `Math.cos`.
variable (cos : Rat → Rat)

/-- The argument that the cosine is taken of. -/
def angle (latitude : Rat) : Rat := PI * latitude / 180

/-- How many degrees of latitude the metres are. -/
def latitudeOffset (offsetInMeters : Int) : Rat := offsetInMeters / R * 180 / PI

/-- How many degrees of longitude the metres are at the latitude. -/
def longitudeOffset (latitude : Rat) (offsetInMeters : Int) : Rat :=
  offsetInMeters / (R * cos (angle latitude)) * 180 / PI

def offsetCoordinates (latitude longitude : Rat) (offsetInMeters : Int) : Rat × Rat :=
  (latitude + latitudeOffset offsetInMeters,
    longitude + longitudeOffset cos latitude offsetInMeters)

theorem latitudeOffset_neg (offsetInMeters : Int) :
    latitudeOffset (-offsetInMeters) = -latitudeOffset offsetInMeters := by
  unfold latitudeOffset
  push_cast
  ring

theorem longitudeOffset_neg (latitude : Rat) (offsetInMeters : Int) :
    longitudeOffset cos latitude (-offsetInMeters) =
      -longitudeOffset cos latitude offsetInMeters := by
  unfold longitudeOffset
  push_cast
  ring

theorem longitudeOffset_nonneg {latitude : Rat} {offsetInMeters : Int}
    (positive : 0 < cos (angle latitude)) (nonneg : 0 ≤ offsetInMeters) :
    0 ≤ longitudeOffset cos latitude offsetInMeters := by
  have metres : (0 : Rat) ≤ offsetInMeters := by exact_mod_cast nonneg
  have radius : 0 < R := by norm_num [R]
  have pi : 0 < PI := by norm_num [PI]
  unfold longitudeOffset
  positivity

end Offsets

end GPSUtils

/-! ### The search -/

def maxLocationRadius : Int := 6378137

section Search

variable (cos : Rat → Rat)

/-- The rows that `searchStreamablesAtLocationResult` cuts into a page. -/
def streamablesAround (currentUserId : Long) (store : Store) (latitude longitude : Rat)
    (radius : Int) : List Streamable :=
  let radius := min radius maxLocationRadius
  streamablesAtLocation currentUserId store
    (GPSUtils.offsetCoordinates cos latitude longitude (-radius))
    (GPSUtils.offsetCoordinates cos latitude longitude radius)

/-- The listing is a page of these rows, on a platform with the offsets of the source. -/
theorem searchStreamablesAtLocationResult_eq (search : SearchPlatform) (currentUserId : Long)
    (store : Store) (latitude longitude : Rat) (radius : Int) :
    searchStreamablesAtLocationResult currentUserId store
        { search with offsetCoordinates := GPSUtils.offsetCoordinates cos } latitude longitude
        radius =
      (getLocationItems (streamablesAround cos currentUserId store latitude longitude radius)
        (some 0) (some pageSizeMaxValueLocation)).map (Streamable.toDto currentUserId store) :=
  rfl

/-- The point is within both offsets of the centre, the longitude measured around the earth. -/
def IsAround (latitude longitude : Rat) (radius : Int) (point : Rat × Rat) : Prop :=
  |point.1 - latitude| ≤ GPSUtils.latitudeOffset radius ∧
    WithinArc 180 (GPSUtils.longitudeOffset cos latitude radius) point.2 longitude

/-- Of the public streamables the search finds those around the centre. -/
def FindsAround (latitude longitude : Rat) (radius : Int) : Prop :=
  ∀ currentUserId store, ∀ streamable ∈ store.streamables.rows, streamable.isDeleted = false →
    streamable.isPrivate = false → ∀ point : Rat × Rat, streamable.latitude = some point.1 →
      streamable.longitude = some point.2 → |point.2| ≤ 180 →
        (streamable ∈ streamablesAround cos currentUserId store latitude longitude radius ↔
          IsAround cos latitude longitude radius point)

/-- The box reaches the date line neither to the east nor to the west, or on both sides. -/
def ReachesDateLineOnNoSideOrBoth (latitude longitude : Rat) (radius : Int) : Prop :=
  longitude + GPSUtils.longitudeOffset cos latitude radius < 180 ↔
    -180 < longitude - GPSUtils.longitudeOffset cos latitude radius

end Search

/-! ### The box -/

section Box

variable {cos : Rat → Rat} {currentUserId : Long} {store : Store} {latitude longitude : Rat}
  {radius : Int}

/-- A public streamable is found if and only if both of its coordinates are within the offsets as
numbers. -/
theorem mem_streamablesAround (atMost : radius ≤ maxLocationRadius) {streamable : Streamable}
    (member : streamable ∈ store.streamables.rows) (notDeleted : streamable.isDeleted = false)
    (isPublic : streamable.isPrivate = false) {point : Rat × Rat}
    (hasLatitude : streamable.latitude = some point.1)
    (hasLongitude : streamable.longitude = some point.2) :
    streamable ∈ streamablesAround cos currentUserId store latitude longitude radius ↔
      |point.1 - latitude| ≤ GPSUtils.latitudeOffset radius ∧
        |point.2 - longitude| ≤ GPSUtils.longitudeOffset cos latitude radius := by
  have visible : streamable.visibleTo currentUserId = true := by
    rw [Streamable.visibleTo, notDeleted, isPublic]
    rfl
  have between : streamable ∈ streamablesAround cos currentUserId store latitude longitude radius ↔
      streamable.liesBetween (GPSUtils.offsetCoordinates cos latitude longitude (-radius))
        (GPSUtils.offsetCoordinates cos latitude longitude radius) = true := by
    rw [streamablesAround, min_eq_left atMost, streamablesAtLocation, mem_orderByDesc,
      Table.mem_select, visible, Bool.and_true]
    exact and_iff_right member
  rw [between, Streamable.liesBetween, hasLatitude, hasLongitude]
  simp only [Bool.and_eq_true, decide_eq_true_eq, abs_le]
  simp only [GPSUtils.offsetCoordinates, GPSUtils.latitudeOffset_neg,
    GPSUtils.longitudeOffset_neg]
  constructor
  · rintro ⟨⟨⟨north, south⟩, east⟩, west⟩
    exact ⟨⟨by linarith, by linarith⟩, by linarith, by linarith⟩
  · rintro ⟨⟨south, north⟩, west, east⟩
    exact ⟨⟨⟨by linarith, by linarith⟩, by linarith⟩, by linarith⟩

/-- A database with one public streamable, at the point. -/
def storeWithStreamableAt (point : Rat × Rat) : Store :=
  { Store.empty with
    streamables := Table.empty.insert
      { id := 0, userId := 1, createdOn := 0, updatedOn := none, isPrivate := false,
        isFlagged := false, isDeleted := false, text := none, asset := none, hashtags := [],
        latitude := some point.1, longitude := some point.2, roll := none, yaw := none,
        pitch := none } }

/-- The search is right exactly if its interval of longitudes is the arc that it stands for. -/
theorem findsAround_iff_interval (atMost : radius ≤ maxLocationRadius) (nonneg : 0 ≤ radius) :
    FindsAround cos latitude longitude radius ↔
      ∀ point : Rat, |point| ≤ 180 →
        (|point - longitude| ≤ GPSUtils.longitudeOffset cos latitude radius ↔
          WithinArc 180 (GPSUtils.longitudeOffset cos latitude radius) point longitude) := by
  constructor
  · intro finds point bounds
    have found := finds 1 (storeWithStreamableAt (latitude, point)) _ List.mem_cons_self rfl rfl
      (latitude, point) rfl rfl bounds
    rw [mem_streamablesAround atMost List.mem_cons_self rfl rfl rfl rfl] at found
    have sameLatitude : |latitude - latitude| ≤ GPSUtils.latitudeOffset radius := by
      have metres : (0 : Rat) ≤ radius := by exact_mod_cast nonneg
      have earth : 0 < GPSUtils.R := by norm_num [GPSUtils.R]
      have pi : 0 < GPSUtils.PI := by norm_num [GPSUtils.PI]
      rw [sub_self, abs_zero, GPSUtils.latitudeOffset]
      positivity
    simpa only [IsAround, sameLatitude, true_and] using found
  · intro same currentUserId store streamable member notDeleted isPublic point hasLatitude
      hasLongitude bounds
    rw [mem_streamablesAround atMost member notDeleted isPublic hasLatitude hasLongitude]
    exact and_congr_right fun _ => same point.2 bounds

end Box

/-! ### Searching around a location -/

/-- The search finds the streamables around the centre exactly if its box reaches the date line on
no side or on both. -/
theorem findsAround_iff (cos : Rat → Rat) (latitude longitude : Rat) (radius : Int)
    (positive : 0 < cos (GPSUtils.angle latitude)) (bounds : |longitude| ≤ 180)
    (nonneg : 0 ≤ radius) (atMost : radius ≤ maxLocationRadius) :
    FindsAround cos latitude longitude radius ↔
      ReachesDateLineOnNoSideOrBoth cos latitude longitude radius := by
  rw [findsAround_iff_interval atMost nonneg]
  exact interval_iff_arc (GPSUtils.longitudeOffset_nonneg cos positive nonneg) bounds

/-- Ten kilometres around a point on the equator. -/
theorem findsAround_iff_equator :
    FindsAround (fun _ => 1) 0 25 10000 ↔
      ReachesDateLineOnNoSideOrBoth (fun _ => 1) 0 25 10000 :=
  findsAround_iff (fun _ => 1) 0 25 10000 (by decide) (by decide) (by decide) (by decide)

/-- One kilometre around a point on the equator at the date line. -/
theorem not_findsAround :
    ¬ ∀ cos latitude longitude radius, 0 < cos (GPSUtils.angle latitude) → |longitude| ≤ 180 →
      0 ≤ radius → radius ≤ maxLocationRadius → FindsAround cos latitude longitude radius := by
  intro always
  have same := (findsAround_iff_interval (by decide) (by decide)).mp
    (always (fun _ => 1) 0 180 1000 (by decide) (by decide) (by decide) (by decide))
  have near := (same (-180) (by decide)).mpr
    ⟨1, by norm_num [GPSUtils.longitudeOffset, GPSUtils.R, GPSUtils.PI]⟩
  norm_num [GPSUtils.longitudeOffset, GPSUtils.R, GPSUtils.PI] at near

end GraffiTab
