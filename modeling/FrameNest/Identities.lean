import FrameNest.Text.Plain

/-! Typed UUIDv4 identities. The kind keeps two identities of different entities apart;
an identity whose text is not canonical cannot be built. -/
namespace FrameNest
open Plain

inductive IdentityKind where
  | uploadSession | uploadPublication | mediaByteIdentity | library | media | mediaLocation
  | record | document | xPostClaim | xAsset | youtubeClaim
deriving DecidableEq

/-- Canonical lowercase hyphenated text of RFC 4122 variant, version 4. -/
def isUuid4Text (s : String) : Bool :=
  isUuidText s && s.toList[14]? = some '4' &&
    s.toList[19]?.any fun c => c = '8' || c = '9' || c = 'a' || c = 'b'

theorem ones_canonical : isUuid4Text "11111111-1111-4111-8111-111111111111" = true := by
  decide +kernel

theorem twos_canonical : isUuid4Text "22222222-2222-4222-8222-222222222222" = true := by
  decide +kernel

structure Identity (kind : IdentityKind) where
  value : String
  canonical : isUuid4Text value = true
deriving DecidableEq

abbrev UploadSessionId := Identity .uploadSession
abbrev UploadPublicationId := Identity .uploadPublication
abbrev MediaByteIdentityId := Identity .mediaByteIdentity
abbrev LibraryId := Identity .library
abbrev MediaId := Identity .media
abbrev MediaLocationId := Identity .mediaLocation
abbrev YouTubeAcquisitionClaimId := Identity .youtubeClaim

instance lawfulMediaId : LawfulBEq MediaId := inferInstance

/-- `uuid.UUID.hex`: the text without its hyphens. -/
def Identity.hex {kind : IdentityKind} (id : Identity kind) : String :=
  String.ofList (id.value.toList.filter fun c => c ≠ '-')

end FrameNest
