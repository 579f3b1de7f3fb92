import RouteFeed.Text.Charset.Plane.Big5
import RouteFeed.Text.Charset.Plane.Gb2312
import RouteFeed.Text.Charset.Plane.Hkscs

/-! Reading of the Chinese character sets: GB 2312 with its two extensions, and Big5 with its two
variants. -/
namespace RouteFeed.Text

def gb2312Char? (a b : Nat) : Option Char := Plane.gb2312.char? (a - 0xa0) (b - 0xa0)

def readGb2312 : List Nat → Reading := .asciiOr <| .pairOr gb2312Char?

def gbkCell? (b : Nat) : Option Nat :=
  if 0x40 ≤ b ∧ b ≤ 0x7e then some (b - 0x40)
  else if 0x80 ≤ b ∧ b ≤ 0xfe then some (b - 0x41)
  else none

/-- The symbols that GBK adds: runs with their first byte and their first cell. -/
def gbkSymbols : List (Nat × Nat × Array Char) :=
  [(0xa2, 96, "ⅰⅱⅲⅳⅴⅵⅶⅷⅸⅹ"),
    (0xa6, 159, "︵︶︹︺︿﹀︽︾﹁﹂﹃﹄��︻︼︷︸︱�︳︴"),
    (0xa8, 0, "ˊˋ˙–―‥‵℅℉↖↗↘↙∕∟∣≒≦≧⊿═║╒╓╔╕╖╗╘╙╚╛╜╝╞╟╠╡╢╣╤╥╦╧╨╩╪╫╬╭╮╯╰╱╲╳▁▂▃▄▅▆▇█▉▊▋▌▍▎▏▓▔▕▼▽◢◣◤◥" ++
        "☉⊕〒〝〞"),
    (0xa8, 122, "ɑ�ńň�ɡ"),
    (0xa9, 0, "〡〢〣〤〥〦〧〨〩㊣㎎㎏㎜㎝㎞㎡㏄㏎㏑㏒㏕︰￢￤�℡㈱�‐���ー゛゜ヽヾ〆ゝゞ﹉﹊﹋" ++
        "﹌﹍﹎﹏﹐﹑﹒﹔﹕﹖﹗﹙﹚﹛﹜﹝﹞﹟﹠﹡﹢﹣﹤﹥﹦﹨﹩﹪﹫�������������〇")].map
    fun (lead, first, chars) => (lead, first, chars.toList.toArray)

/-- The Chinese characters that GBK adds: those of the unified block that GB 2312 leaves out, in
order, and some for compatibility. -/
def gbkUnified : Array Char :=
  Plane.gb2312.absent 0x4e00 0x51a6 ++
    ("\uf92c\uf979\uf995\uf9e7\uf9f1\ufa0c\ufa0d\ufa0e\ufa0f\ufa11\ufa13\ufa14\ufa18" ++
      "\ufa1f\ufa20\ufa21\ufa23\ufa24\ufa27\ufa28\ufa29").toList.toArray

def gbkExtra? (a cell : Nat) : Option Char :=
  if 0x81 ≤ a ∧ a ≤ 0xa0 then gbkUnified[(a - 0x81) * 190 + cell]?
  else if 0xaa ≤ a ∧ a ≤ 0xfe ∧ cell < 96 then gbkUnified[32 * 190 + (a - 0xaa) * 96 + cell]?
  else
    (gbkSymbols.findSome? fun (lead, first, chars) =>
      if a = lead && first ≤ cell then chars[cell - first]? else none).filter (· != replacement)

/-- The character of two bytes in GBK. Three symbols differ from GB 2312. -/
def gbkChar? (a b : Nat) : Option Char :=
  match a, b with
  | 0xa1, 0xa4 => some '·'
  | 0xa1, 0xaa => some '—'
  | _, _ => (gb2312Char? a b).or ((gbkCell? b).bind (gbkExtra? a))

def readGbk : List Nat → Reading := .asciiOr <| .pairOr gbkChar?

/-- The codes for private use that GB 18030 keeps in blocks: the first and the last leading byte,
the first cell, the number of cells and the first character. -/
def privateBlocks : List (Nat × Nat × Nat × Nat × Nat) := [
  (0xaa, 0xaf, 96, 94, 0xe000), (0xf8, 0xfe, 96, 94, 0xe234), (0xa1, 0xa7, 0, 96, 0xe4c6)]

def privateChar? (a cell : Nat) : Option Char :=
  privateBlocks.findSome? fun (first, last, firstCell, cells, start) =>
    if first ≤ a && a ≤ last && firstCell ≤ cell && cell < firstCell + cells then
      some (Char.ofNat (start + (a - first) * cells + (cell - firstCell)))
    else none

/-- The characters of codes that have been taken from private use in GB 18030: runs with the number
of the first character they replace. -/
def settledChars : List (Nat × Array Char) :=
  [(0xe76c, "€"), (0xe7c8, "ǹ"), (0xe7e7, "〾⿰⿱⿲⿳⿴⿵⿶⿷⿸⿹⿺⿻"),
    (0xe815, "⺁���⺄㑳㑇⺈⺋�㖞㘚㘎⺌⺗㥮㤘�㧏㧟㩳㧐��㭎㱮㳠⺧��⺪䁖䅟⺮䌷⺳⺶⺷�䎱䎬⺻䏝䓖䙡" ++
        "䙌�䜣䜩䝼䞍⻊䥇䥺䥽䦂䦃䦅䦆䦟䦛䦷䦶��䲣䲟䲠䲡䱷䲢䴓䴔䴕䴖䴗䴘䴙䶮")].map
    fun (first, chars) => (first, chars.toList.toArray)

/-- The character that a remaining code of GB 18030 has, by the number for private use it had. -/
def settledChar (n : Nat) : Char :=
  ((settledChars.findSome? fun (first, chars) =>
    if first ≤ n then chars[n - first]? else none).filter (· != replacement)).getD (Char.ofNat n)

/-- The characters of two bytes in GB 18030, in the order of their codes. Codes that are neither in
GBK nor in a block for private use share the numbers from U+E766 on. -/
def gb18030Pairs : Array Char :=
  ((List.range 126).foldl (fun (state : Array Char × Nat) lead =>
    (List.range 190).foldl (fun (pairs, free) cell =>
      let b := if cell < 63 then cell + 0x40 else cell + 0x41
      match (gbkChar? (lead + 0x81) b).or (privateChar? (lead + 0x81) cell) with
      | some c => (pairs.push c, free)
      | none => (pairs.push (settledChar free), free + 1)) state)
    (#[], 0xe766)).1

def gb18030Char? (a b : Nat) : Option Char :=
  if a < 0x81 then none else (gbkCell? b).bind fun cell => gb18030Pairs[(a - 0x81) * 190 + cell]?

/-- The characters of the basic plane that have four bytes in GB 18030: those without two, in
order. -/
def gb18030Rest : Array Char :=
  let present := gb18030Pairs.foldl (fun marks c => marks.setIfInBounds c.toNat true)
    (Array.replicate 0x10000 false)
  (((List.range 0x10000).drop 0x80).filter fun n =>
    n.isValidChar && !present.getD n true).toArray.map Char.ofNat

def gb18030Long? (a b c d : Nat) : Option Char :=
  if a < 0x81 || 0xfe < a || c < 0x81 || 0xfe < c || d < 0x30 || 0x39 < d then none
  else
    let place := (((a - 0x81) * 10 + (b - 0x30)) * 126 + (c - 0x81)) * 10 + (d - 0x30)
    if place < 50400 then gb18030Rest[place]?
    else if place < 189000 then none
    else
      let n := 0x10000 + (place - 189000)
      if n.isValidChar then some (Char.ofNat n) else none

def readGb18030 : List Nat → Reading := .asciiOr fun a bytes =>
  match bytes with
  | [] => .unfinished
  | b :: bytes =>
    if 0x30 ≤ b && b ≤ 0x39 then
      match bytes with
      | c :: d :: _ => .ofChar? 4 (gb18030Long? a b c d)
      | _ => .unfinished
    else .ofChar? 2 (gb18030Char? a b)

/-- The cell of a second byte among the 157 of Big5, counted from one; zero if there is none. -/
def big5Cell (b : Nat) : Nat :=
  if 0x40 ≤ b ∧ b ≤ 0x7e then b - 0x3f
  else if 0xa1 ≤ b ∧ b ≤ 0xfe then b - 0xa1 + 64
  else 0

def big5Char? (a b : Nat) : Option Char := Plane.big5.char? (a - 0xa0) (big5Cell b)

def readBig5 : List Nat → Reading := .asciiOr <| .pairOr big5Char?

/-- The characters that the code page for Big5 adds at its end. -/
def cp950Tail : Array Char :=
  "碁銹裏墻恒粧嫺╔╦╗╠╬╣╚╩╝╒╤╕╞╪╡╘╧╛╓╥╖╟╫╢╙╨╜║═╭╮╰╯▓".toList.toArray

/-- The characters of the code page for Big5 that are others there, or more. -/
def cp950Change? (a b : Nat) : Option Char :=
  match a, b with
  | 0xa1, 0x45 => some '‧'
  | 0xa1, 0x4e => some '﹑'
  | 0xa1, 0xc2 => some '¯'
  | 0xa1, 0xe3 => some '～'
  | 0xa1, 0xf2 => some '⊕'
  | 0xa1, 0xf3 => some '⊙'
  | 0xa2, 0x41 => some '∕'
  | 0xa2, 0x42 => some '﹨'
  | 0xa2, 0x44 => some '￥'
  | 0xa2, 0x46 => some '￠'
  | 0xa2, 0x47 => some '￡'
  | 0xa3, 0xe1 => some '€'
  | 0xf9, b => if b < 0xd6 then none else cp950Tail[b - 0xd6]?
  | _, _ => none

def readCp950 : List Nat → Reading := .asciiOr <| .pairOr fun a b =>
  (cp950Change? a b).or (big5Char? a b)

def hkscsCombined? (a b : Nat) : Option (List Char) :=
  match a, b with
  | 0x88, 0x62 => some ['\xca', '\u0304']
  | 0x88, 0x64 => some ['\xca', '\u030c']
  | 0x88, 0xa3 => some ['\xea', '\u0304']
  | 0x88, 0xa5 => some ['\xea', '\u030c']
  | _, _ => none

/-- Two bytes that Big5 has for other characters than Hong Kong. -/
def isHkscsOnly (a b : Nat) : Bool := a = 0xc7 || a = 0xc8 || (a = 0xc6 && 0xa1 ≤ b)

def readBig5Hkscs : List Nat → Reading := .asciiOr fun a bytes =>
  match bytes with
  | [] => .unfinished
  | b :: _ =>
    let base := if isHkscsOnly a b then none else big5Char? a b
    let single := base.or (Plane.hkscs.char? (a - 0x80) (big5Cell b))
    .ofChars? 2 ((single.map fun c => [c]).or (hkscsCombined? a b))

/-- Read GB 2312 in seven bits: a tilde leads into the mode of two bytes and out of it. The mode
behind the bytes goes with what they are. -/
def readHz (inPairs : Bool) : List Nat → Reading × Bool
  | [] => (.unfinished, inPairs)
  | 0x7e :: bytes =>
    match bytes, inPairs with
    | [], _ => (.unfinished, inPairs)
    | 0x7e :: _, false => (.chars ['~'] 2, false)
    | 0x7b :: _, false => (.chars [] 2, true)
    | 0x0a :: _, false => (.chars [] 2, false)
    | 0x7d :: _, true => (.chars [] 2, false)
    | _, _ => (.stray 1, inPairs)
  | a :: bytes =>
    if 0x80 ≤ a then (.stray 1, inPairs)
    else if inPairs then (.pairOr (fun a b => gb2312Char? (a + 0x80) (b + 0x80)) a bytes, true)
    else (.chars [Char.ofNat a] 1, false)

end RouteFeed.Text
