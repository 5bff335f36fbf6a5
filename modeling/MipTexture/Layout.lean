/-!
# Layouts

What a texture says about its pixels: the order of their channels and the form in which their bytes are
stored. The order says which channels there are, and the form how to read them.
-/

namespace MipTexture

/-- How the bytes of the pixels are ordered logically, apart from how they are stored. -/
inductive Channels where
  | bgr
  | bgra
  deriving Repr, DecidableEq

namespace Channels

def name : Channels → String
  | .bgr => "bgr"
  | .bgra => "bgra"

/-- The name in capitals, as messages spell it. -/
def label : Channels → String
  | .bgr => "BGR"
  | .bgra => "BGRA"

end Channels

inductive Storage where
  | rgba8
  | dxt1
  | dxt5
  deriving Repr, DecidableEq

namespace Storage

def name : Storage → String
  | .rgba8 => "rgba8"
  | .dxt1 => "dxt1"
  | .dxt5 => "dxt5"

end Storage

structure Layout where
  compressed : Bool
  hasAlpha : Bool
  channels : Channels
  storage : Storage
  deriving Repr, DecidableEq

end MipTexture
