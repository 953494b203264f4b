import Partitura.Catalog.Definition
/-!
# Catalog.Standard — the elements that need no catalog file

The standard table: markup, the parts of a score, commands between notes, dynamic and articulation signs.  Its order is
the order in which the elements are listed.
-/
namespace Partitura
namespace Standard

def markupCategories : CategorySet := .ofList [.markup, .attachment]

/-- The categories that markup accepts as children and arguments. -/
def markupContent : CategorySet := .ofList [.markup, .comment, .setting, .scoreVariable]

def musicContent : CategorySet := .ofList [.music, .attachment, .comment, .setting, .scoreVariable]

def bookContent : CategorySet := .ofList [.music, .markup, .setting, .comment, .scoreVariable]

def settingContent : CategorySet := .ofList [.setting, .field, .comment]

def value (name : String) (kind : LeafKind) : Parameter := ⟨name, .leaf kind, false⟩

def piece (name : String) : Parameter := ⟨name, .node markupContent, false⟩

def music (name : String) : Parameter := ⟨name, .node (.single .music), false⟩

def sign (name tag : String) (parameters : List Parameter) : Rule :=
  { Rule.command name tag markupCategories with parameters }

def around (name tag : String) (parameters : List Parameter) : Rule :=
  { Rule.container name tag markupCategories markupContent with parameters }

def part (name tag : String) (categories : List Category) (content : CategorySet) : Rule :=
  Rule.container name tag (.ofList categories) content

/-- An inline sign after a note. -/
def mark (name tag : String) (categories : List Category) : Rule :=
  { Rule.command name tag (.ofList categories) with inline := true }

def markupBlock : List Rule := [
  around "markup" "\\markup" []]

def fonts : List Rule := [
  around "abs_fontsize" "\\abs-fontsize" [value "size" .signedFloat],
  around "bold" "\\bold" [],
  around "box" "\\box" [],
  around "caps" "\\caps" [],
  around "dynamic_font" "\\dynamic" [],
  around "finger_font" "\\finger" [],
  around "font_caps" "\\fontCaps" [],
  around "font_size" "\\fontsize" [value "size" .signedFloat],
  around "huge" "\\huge" [],
  around "italic" "\\italic" [],
  around "large" "\\large" [],
  around "larger" "\\larger" [],
  around "magnify" "\\magnify" [value "factor" .signedFloat],
  around "medium" "\\medium" [],
  around "normal_size_sub" "\\normal-size-sub" [],
  around "normal_size_super" "\\normal-size-super" [],
  around "normal_text" "\\normal-text" [],
  around "number_font" "\\number" [],
  around "replace" "\\replace" [value "replacements" .associationList],
  around "roman_font" "\\roman" [],
  around "sans_font" "\\sans" [],
  sign "simple" "\\simple" [value "text" .string],
  around "small" "\\small" [],
  around "small_caps" "\\smallCaps" [],
  around "smaller" "\\smaller" [],
  around "sub" "\\sub" [],
  around "super" "\\super" [],
  around "teeny" "\\teeny" [],
  around "text_font" "\\text" [],
  around "tiny" "\\tiny" [],
  around "typewriter_font" "\\typewriter" [],
  around "underline" "\\underline" [],
  around "upright" "\\upright" []]

def alignment : List Rule := [
  around "center_align" "\\center-align" [],
  around "center_column" "\\center-column" [],
  around "column" "\\column" [],
  sign "combine" "\\combine" [piece "first", piece "second"],
  around "concat" "\\concat" [],
  around "dir_column" "\\dir-column" [],
  around "fill_line" "\\fill-line" [],
  sign "fill_with_pattern" "\\fill-with-pattern"
    [value "space" .signedFloat, value "direction" .signedFloat, piece "pattern", piece "left", piece "right"],
  around "general_align" "\\general-align" [value "axis" .signedInt, value "direction" .signedFloat],
  around "halign" "\\halign" [value "direction" .signedFloat],
  around "hcenter_in" "\\hcenter-in" [value "length" .signedFloat],
  sign "hspace" "\\hspace" [value "amount" .signedFloat],
  sign "justify_field" "\\justify-field" [value "symbol" .symbol],
  around "justify" "\\justify" [],
  sign "justify_string" "\\justify-string" [value "text" .string],
  around "left_align" "\\left-align" [],
  around "left_column" "\\left-column" [],
  around "line" "\\line" [],
  around "lower" "\\lower" [value "amount" .signedFloat],
  around "pad_around" "\\pad-around" [value "amount" .signedFloat],
  around "pad_markup" "\\pad-markup" [value "amount" .signedFloat],
  around "pad_to_box" "\\pad-to-box" [value "xext" .pair, value "yext" .pair],
  around "pad_x" "\\pad-x" [value "amount" .signedFloat],
  sign "put_adjacent" "\\put-adjacent"
    [value "axis" .signedInt, value "direction" .signedFloat, piece "first", piece "second"],
  around "raise_markup" "\\raise" [value "amount" .signedFloat],
  around "right_align" "\\right-align" [],
  around "right_column" "\\right-column" [],
  around "rotate" "\\rotate" [value "angle" .signedFloat],
  around "translate" "\\translate" [value "offset" .pair],
  around "translate_scaled" "\\translate-scaled" [value "offset" .pair],
  around "vcenter" "\\vcenter" [],
  sign "vspace" "\\vspace" [value "amount" .signedFloat],
  sign "wordwrap_field" "\\wordwrap-field" [value "symbol" .symbol],
  around "wordwrap" "\\wordwrap" [],
  sign "wordwrap_string" "\\wordwrap-string" [value "text" .string]]

def graphics : List Rule := [
  sign "arrow_head" "\\arrow-head" [value "axis" .signedInt, value "direction" .signedFloat, value "filled" .boolean],
  sign "beam" "\\beam" [value "width" .signedFloat, value "slope" .signedFloat, value "thickness" .signedFloat],
  around "bracket" "\\bracket" [],
  around "circle" "\\circle" [],
  sign "draw_circle" "\\draw-circle"
    [value "radius" .signedFloat, value "thickness" .signedFloat, value "filled" .boolean],
  sign "draw_dashed_line" "\\draw-dashed-line" [value "destination" .pair],
  sign "draw_dotted_line" "\\draw-dotted-line" [value "destination" .pair],
  sign "draw_hline" "\\draw-hline" [],
  sign "draw_line" "\\draw-line" [value "destination" .pair],
  around "ellipse" "\\ellipse" [],
  sign "epsfile" "\\epsfile" [value "axis" .signedInt, value "size" .signedFloat, value "file_name" .string],
  sign "filled_box" "\\filled-box" [value "xext" .pair, value "yext" .pair, value "blot" .signedFloat],
  around "hbracket" "\\hbracket" [],
  around "oval" "\\oval" [],
  around "parenthesize" "\\parenthesize" [],
  sign "path" "\\path" [value "thickness" .signedFloat, value "commands" .list],
  sign "postscript" "\\postscript" [value "code" .string],
  around "rounded_box" "\\rounded-box" [],
  around "scale" "\\scale" [value "factor" .pair],
  sign "triangle" "\\triangle" [value "filled" .boolean],
  around "with_url" "\\with-url" [value "url" .string]]

def glyphs : List Rule := [
  sign "custom_tab_clef" "\\customTabClef" [value "num_strings" .signedInt, value "staff_space" .signedFloat],
  sign "doubleflat" "\\doubleflat" [],
  sign "doublesharp" "\\doublesharp" [],
  sign "fermata" "\\fermata" [],
  sign "flat" "\\flat" [],
  sign "musicglyph" "\\musicglyph" [value "glyph_name" .string],
  sign "natural" "\\natural" [],
  sign "note_by_number" "\\note-by-number"
    [value "log" .signedFloat, value "dot_count" .signedFloat, value "direction" .signedFloat],
  sign "note" "\\note" [value "duration" .string, value "direction" .signedFloat],
  sign "rest_by_number" "\\rest-by-number" [value "log" .signedFloat, value "dot_count" .signedFloat],
  sign "rest" "\\rest" [value "duration" .string],
  Rule.container "markup_score" "\\score" markupCategories (.ofList [.music, .comment, .setting]),
  sign "semiflat" "\\semiflat" [],
  sign "semisharp" "\\semisharp" [],
  sign "sesquiflat" "\\sesquiflat" [],
  sign "sesquisharp" "\\sesquisharp" [],
  sign "sharp" "\\sharp" [],
  sign "tied_lyric" "\\tied-lyric" [value "text" .string]]

def diagrams : List Rule := [
  sign "fret_diagram" "\\fret-diagram" [value "definition_string" .string],
  sign "fret_diagram_terse" "\\fret-diagram-terse" [value "definition_string" .string],
  sign "fret_diagram_verbose" "\\fret-diagram-verbose" [value "markings_list" .list],
  sign "harp_pedal" "\\harp-pedal" [value "definition_string" .string],
  sign "woodwind_diagram" "\\woodwind-diagram" [value "instrument" .symbol, value "user_draw_commands" .list]]

def registers : List Rule := [
  sign "discant" "\\discant" [value "name" .string],
  sign "free_bass" "\\freeBass" [value "name" .string],
  sign "std_bass" "\\stdBass" [value "name" .string],
  sign "std_bass_iv" "\\stdBassIV" [value "name" .string],
  sign "std_bass_v" "\\stdBassV" [value "name" .string],
  sign "std_bass_vi" "\\stdBassVI" [value "name" .string]]

def otherMarkup : List Rule := [
  sign "auto_footnote" "\\auto-footnote" [piece "mark", piece "footnote"],
  sign "backslashed_digit" "\\backslashed-digit" [value "num" .signedInt],
  sign "char" "\\char" [value "num" .signedInt],
  sign "eyeglasses" "\\eyeglasses" [],
  sign "footnote" "\\footnote" [piece "mark", piece "footnote"],
  sign "fraction" "\\fraction" [piece "numerator", piece "denominator"],
  sign "fromproperty" "\\fromproperty" [value "symbol" .symbol],
  sign "leftbrace" "\\left-brace" [value "size" .signedFloat],
  sign "lookup" "\\lookup" [value "glyph_name" .string],
  sign "markalphabet" "\\markalphabet" [value "num" .signedInt],
  sign "markletter" "\\markletter" [value "num" .signedInt],
  sign "null" "\\null" [],
  around "on_the_fly" "\\on-the-fly" [value "procedure" .procedure],
  around "override" "\\override" [value "new_property" .pair],
  around "page_link" "\\page-link" [value "page_number" .signedFloat],
  sign "page_ref" "\\page-ref" [value "label" .symbol, piece "gauge", piece "default"],
  sign "pattern" "\\pattern"
    [value "count" .signedInt, value "axis" .signedInt, value "space" .signedFloat, piece "pattern"],
  sign "property_recursive" "\\property-recursive" [value "symbol" .symbol],
  sign "right_brace" "\\right-brace" [value "size" .signedFloat],
  sign "slashed_digit" "\\slashed-digit" [value "num" .signedInt],
  sign "stencil" "\\stencil" [⟨"stencil", .any, false⟩],
  sign "strut" "\\strut" [],
  around "transparent" "\\transparent" [],
  sign "verbatim_file" "\\verbatim-file" [value "name" .string],
  around "whiteout" "\\whiteout" [],
  { around "with_color" "\\with-color" [value "color" .color] with inline := true },
  around "with_dimensions" "\\with-dimensions" [value "xext" .pair, value "yext" .pair],
  around "with_link" "\\with-link" [value "label" .symbol]]

def parts : List Rule := [
  part "book" "\\book" [.music] bookContent,
  part "bookpart" "\\bookpart" [.music] bookContent,
  part "score" "\\score" [.music] (.ofList [.music, .setting, .comment, .scoreVariable]),
  part "header" "\\header" [.setting] (.ofList [.field, .setting, .comment, .scoreVariable]),
  part "layout" "\\layout" [.setting] settingContent,
  part "midi" "\\midi" [.setting] settingContent,
  part "paper" "\\paper" [.setting] settingContent,
  part "with" "\\with" [.setting] settingContent,
  part "sequential" "" [.music] musicContent,
  { part "parallel" "" [.music] (.ofList [.music, .comment, .setting, .scoreVariable]) with
    opening := "<<", closing := ">>" },
  { part "relative" "\\relative" [.music] musicContent with
    parameters := [⟨"pitch", .node (.single .music), true⟩] },
  { part "transpose" "\\transpose" [.music] musicContent with parameters := [music "from", music "to"] },
  part "lyricmode" "\\lyricmode" [.lyrics, .music] (.ofList [.lyrics, .markup, .comment]),
  part "addlyrics" "\\addlyrics" [.lyrics, .music] (.ofList [.lyrics, .markup, .comment]),
  part "chordmode" "\\chordmode" [.chordMode, .music] (.ofList [.music, .chordMode, .comment])]

def commands : List Rule := [
  { mark "bar" "\\bar" [.music] with parameters := [value "kind" .string] },
  { Rule.command "clef" "\\clef" (.ofList [.music, .setting]) with parameters := [value "clef" .string] },
  Rule.command "break" "\\break" (.ofList [.music]),
  Rule.command "page_break" "\\pageBreak" (.ofList [.music])]

/-- Dynamic signs, from soft to loud and the sudden ones. -/
def dynamics : List Rule := [
  mark "piano5" "\\ppppp" [.attachment],
  mark "piano4" "\\pppp" [.attachment],
  mark "piano3" "\\ppp" [.attachment],
  mark "piano2" "\\pp" [.attachment],
  mark "piano" "\\p" [.attachment],
  mark "mezzo_piano" "\\mp" [.attachment],
  mark "mezzo_forte" "\\mf" [.attachment],
  mark "forte" "\\f" [.attachment],
  mark "forte2" "\\ff" [.attachment],
  mark "forte3" "\\fff" [.attachment],
  mark "forte4" "\\ffff" [.attachment],
  mark "forte5" "\\fffff" [.attachment],
  mark "forte_piano" "\\fp" [.attachment],
  mark "sforzato" "\\sf" [.attachment],
  mark "sfortissimo" "\\sff" [.attachment],
  mark "sforzando" "\\sfz" [.attachment],
  mark "spiano" "\\sp" [.attachment],
  mark "spianissimo" "\\spp" [.attachment],
  mark "rinforzando" "\\rfz" [.attachment]]

def articulations : List Rule := [
  mark "staccato" "\\staccato" [.attachment, .accent],
  mark "accent" "\\accent" [.attachment, .accent],
  mark "tenuto" "\\tenuto" [.attachment, .accent],
  mark "marcato" "\\marcato" [.attachment, .accent],
  mark "fermata_articulation" "\\fermata" [.attachment, .accent]]

/-- **The standard rules.** -/
def rules : List Rule :=
  markupBlock ++ fonts ++ alignment ++ graphics ++ glyphs ++ diagrams ++
    registers ++ otherMarkup ++ parts ++ commands ++ dynamics ++ articulations

end Standard

/-- **The standard table as a catalog.** -/
def Catalog.standard : Catalog := ⟨currentVersion, Standard.rules.map .ofRule⟩

end Partitura
