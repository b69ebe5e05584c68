import FrameNest.Metadata.Values

/-! The values of the string enumerations, as columns and JSON texts hold them. -/
namespace FrameNest.Metadata

inductive MediaKind where
  | video | animatedImage | image
deriving DecidableEq

/-- An enumeration with a string for each of its members. -/
structure Spelled (α : Type) where
  all : List α
  value : α → String
  complete : ∀ a, a ∈ all
  injective : Function.Injective value

namespace Spelled
variable {α : Type} (e : Spelled α)

/- The constructor of the enumeration, `none` where it raises `ValueError`. -/
def ofValue? (s : String) : Option α := e.all.find? fun a => e.value a = s

/-- A member is found by its own value. -/
@[simp] theorem ofValue?_value (a : α) : e.ofValue? (e.value a) = some a := by
  unfold ofValue?
  cases hfind : e.all.find? fun b => e.value b = e.value a with
  | none =>
    have hnone := List.find?_eq_none.mp hfind a (e.complete a)
    simp at hnone
  | some b =>
    have hb : e.value b = e.value a := by simpa using List.find?_some hfind
    rw [e.injective hb]

end Spelled

def mediaKinds : Spelled MediaKind where
  all := [.video, .animatedImage, .image]
  value
    | .video => "video"
    | .animatedImage => "animated_image"
    | .image => "image"
  complete a := by cases a <;> decide
  injective a b h := by cases a <;> cases b <;> first | rfl | exact absurd h (by decide)

def contentCategories : Spelled ContentCategory where
  all := [.general, .meme, .movie, .youtube]
  value
    | .general => "general"
    | .meme => "meme"
    | .movie => "movie"
    | .youtube => "youtube"
  complete a := by cases a <;> decide
  injective a b h := by cases a <;> cases b <;> first | rfl | exact absurd h (by decide)

def acquisitionSources : Spelled AcquisitionSource where
  all := [.unknown, .manualUpload, .libraryScan, .youtubeManualClaim, .xManualClaim]
  value
    | .unknown => "unknown"
    | .manualUpload => "manual_upload"
    | .libraryScan => "library_scan"
    | .youtubeManualClaim => "youtube_manual_claim"
    | .xManualClaim => "x_manual_claim"
  complete a := by cases a <;> decide
  injective a b h := by cases a <;> cases b <;> first | rfl | exact absurd h (by decide)

def creatorAttributionKinds : Spelled CreatorAttributionKind where
  all := [.youtubeChannel, .xAuthor]
  value
    | .youtubeChannel => "youtube_channel"
    | .xAuthor => "x_author"
  complete a := by cases a <;> decide
  injective a b h := by cases a <;> cases b <;> first | rfl | exact absurd h (by decide)

def movieGenres : Spelled MovieGenre where
  all := [.drama, .comedy, .sciFi, .thriller, .horror, .action, .adventure, .documentary,
    .animation, .family, .romance, .crime, .fantasy, .mystery]
  value
    | .drama => "drama"
    | .comedy => "comedy"
    | .sciFi => "sci-fi"
    | .thriller => "thriller"
    | .horror => "horror"
    | .action => "action"
    | .adventure => "adventure"
    | .documentary => "documentary"
    | .animation => "animation"
    | .family => "family"
    | .romance => "romance"
    | .crime => "crime"
    | .fantasy => "fantasy"
    | .mystery => "mystery"
  complete a := by cases a <;> decide
  injective a b h := by cases a <;> cases b <;> first | rfl | exact absurd h (by decide)

end FrameNest.Metadata
