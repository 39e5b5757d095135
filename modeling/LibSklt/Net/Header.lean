import LibSklt.Foundation.Framing

/-!
# The message header interface (`net/header.h`)

`Header` is the abstract base class through which sessions read the sizes
and the protocol number of a message.  The embedding keeps the virtual
functions that the asynchronous server calls.

`Speaks` relates an implementation of the interface to a frame format: its
objects read off a header image what the format says.
-/

namespace LibSklt.Net

open LibSklt.Foundation.Framing

/-- The virtual functions of `Header`, for objects with state `H`. -/
class Header (H : Type) where
  getHeaderSize : H → Nat
  getBodySize : H → Nat
  getEnderSize : H → Nat
  getProtocolNo : H → UInt16
  /-- The object after `Deserialize(buffer, size)`, and the return value. -/
  deserialize : H → List UInt8 → Nat → H × Nat
  validate : H → Bool
  checkEndmarker : H → List UInt8 → Nat → Bool

/--
The header objects with `good` read frames of the given format.  A buffer
may hold further bytes behind the header image.
-/
structure Speaks {H : Type} [Header H]
    (format : FrameFormat UInt8 UInt16) (good : H → Prop) : Prop where
  headerSize :
    ∀ header, good header →
      Header.getHeaderSize header = format.headerSize
  enderSize :
    ∀ header, good header →
      Header.getEnderSize header = format.trailerSize
  good_deserialize :
    ∀ header buffer size, good header →
      good (Header.deserialize header buffer size).1
  bodySize :
    ∀ header image rest, good header →
      image.length = format.headerSize →
      Header.getBodySize
          (Header.deserialize header (image ++ rest)
            format.headerSize).1 =
        format.bodySize image
  protocolNo :
    ∀ header image rest, good header →
      image.length = format.headerSize →
      Header.getProtocolNo
          (Header.deserialize header (image ++ rest)
            format.headerSize).1 =
        format.tag image
  validate :
    ∀ header, good header → Header.validate header = true
  checkEndmarker :
    ∀ header buffer size, good header →
      Header.checkEndmarker header buffer size = true

end LibSklt.Net
