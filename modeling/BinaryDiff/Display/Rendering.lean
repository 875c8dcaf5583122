import BinaryDiff.Display.Markup

/-! # Rendering

The styles of a text are computed after it has been laid out, and only those that are still on one
of its lines. A style that has no meaning is passed over, but a colour that cannot be computed is an
error. -/

namespace BinaryDiff

/-- The fault in the colours of the style of a stretch, if there is one. -/
def Stretch.fault? (stretch : Stretch) : Option ColourFault := Style.fault? stretch.style

namespace StyledText

/-- Makes sure that the styles on lines can be computed. -/
def checkStyles (lines : List StyledText) : Except MarkupError Unit :=
  match (lines.flatMap stretches).findSome? Stretch.fault? with
  | some fault => .error (.badColour fault)
  | none => .ok ()

end StyledText
end BinaryDiff
