import PacketLink.Frame.Kind

/-!
# Why a frame cannot be built or read

* `FrameError`: the causes.
* `FrameError.message`: their wording.
-/

namespace PacketLink

/-- Why a frame cannot be built or read. -/
inductive FrameError where
  /-- A buffer is shorter than the header of its kind. -/
  | truncated (kind : FrameKind) (minimum actual : Nat)
  /-- A payload is longer than the kind allows. -/
  | payloadTooLarge (kind : FrameKind) (maximum actual : Nat)
deriving DecidableEq, Repr

/-- The wording of a frame error. -/
def FrameError.message : FrameError → String
  | .truncated kind minimum actual =>
    kind.label ++ " frame truncated: need at least " ++ toString minimum ++ " bytes, got "
      ++ toString actual
  | .payloadTooLarge kind maximum actual =>
    kind.label ++ " payload too large: maximum " ++ toString maximum ++ " bytes, got "
      ++ toString actual

end PacketLink
