/-!
# Color.Palette — the tables of color names

The normal palette, the simple X11 names and the bases of the numbered X11 names.  Their order is part of the interface:
the lists are exported as they stand.
-/
namespace Partitura
namespace Palette

/-- The normal palette, whose names stand for themselves. -/
def normal : List String := [
  "black", "white", "red", "green", "blue", "cyan", "magenta", "yellow", "grey", "darkred", "darkgreen",
  "darkblue", "darkcyan", "darkmagenta", "darkyellow"]

def x11 : List String := [
  "snow", "GhostWhite", "WhiteSmoke", "gainsboro", "FloralWhite", "OldLace", "linen", "AntiqueWhite",
  "PapayaWhip", "BlanchedAlmond", "bisque", "PeachPuff", "NavajoWhite", "moccasin", "cornsilk", "ivory",
  "LemonChiffon", "seashell", "honeydew", "MintCream", "azure", "AliceBlue", "lavender", "LavenderBlush",
  "MistyRose", "DarkSlateGray", "DarkSlateGrey", "DimGray", "DimGrey", "SlateGray", "SlateGrey",
  "LightSlateGray", "LightSlateGrey", "gray", "LightGrey", "LightGray", "DarkGrey", "DarkGray", "MidnightBlue",
  "navy", "NavyBlue", "CornflowerBlue", "DarkSlateBlue", "SlateBlue", "MediumSlateBlue", "LightSlateBlue",
  "MediumBlue", "RoyalBlue", "DodgerBlue", "DeepSkyBlue", "SkyBlue", "LightSkyBlue", "SteelBlue",
  "LightSteelBlue", "LightBlue", "PowderBlue", "PaleTurquoise", "DarkTurquoise", "MediumTurquoise", "turquoise",
  "LightCyan", "CadetBlue", "MediumAquamarine", "aquamarine", "DarkOliveGreen", "DarkSeaGreen", "SeaGreen",
  "MediumSeaGreen", "LightSeaGreen", "PaleGreen", "SpringGreen", "LawnGreen", "chartreuse", "MediumSpringGreen",
  "GreenYellow", "LimeGreen", "YellowGreen", "ForestGreen", "OliveDrab", "DarkKhaki", "khaki", "PaleGoldenrod",
  "LightGoldenrodYellow", "LightYellow", "gold", "LightGoldenrod", "goldenrod", "DarkGoldenrod", "RosyBrown",
  "IndianRed", "SaddleBrown", "sienna", "peru", "burlywood", "beige", "wheat", "SandyBrown", "tan", "chocolate",
  "firebrick", "brown", "DarkSalmon", "salmon", "LightSalmon", "orange", "DarkOrange", "coral", "LightCoral",
  "tomato", "OrangeRed", "HotPink", "DeepPink", "pink", "LightPink", "PaleVioletRed", "maroon",
  "MediumVioletRed", "VioletRed", "violet", "plum", "orchid", "MediumOrchid", "DarkOrchid", "DarkViolet",
  "BlueViolet", "purple", "MediumPurple", "thistle", "LightGreen"]

/-- X11 names that take a number from 1 to 4. -/
def numberedBases : List String := [
  "snow", "seashell", "AntiqueWhite", "bisque", "PeachPuff", "NavajoWhite", "LemonChiffon", "cornsilk", "ivory",
  "honeydew", "LavenderBlush", "MistyRose", "azure", "SlateBlue", "RoyalBlue", "blue", "DodgerBlue",
  "SteelBlue", "DeepSkyBlue", "SkyBlue", "LightSkyBlue", "SlateGray", "LightSteelBlue", "LightBlue",
  "LightCyan", "PaleTurquoise", "CadetBlue", "turquoise", "cyan", "DarkSlateGray", "aquamarine", "DarkSeaGreen",
  "SeaGreen", "PaleGreen", "SpringGreen", "green", "chartreuse", "OliveDrab", "DarkOliveGreen", "khaki",
  "LightGoldenrod", "LightYellow", "yellow", "gold", "goldenrod", "DarkGoldenrod", "RosyBrown", "IndianRed",
  "sienna", "burlywood", "wheat", "tan", "chocolate", "firebrick", "brown", "salmon", "LightSalmon", "orange",
  "DarkOrange", "coral", "tomato", "OrangeRed", "red", "DeepPink", "HotPink", "pink", "LightPink",
  "PaleVioletRed", "maroon", "VioletRed", "magenta", "orchid", "plum", "MediumOrchid", "DarkOrchid", "purple",
  "MediumPurple", "thistle"]

end Palette
end Partitura
