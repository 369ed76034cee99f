import Lingo.Codec.Iso2022

/-!
# Multibyte codecs

The multibyte codecs of East Asian scripts, by name. Each writes ASCII as it is (but the
Shift_JIS forms of JIS X 0213, which write the backslash and the tilde in two bytes, and HZ,
which doubles `~`) and the characters of its sets in two or more bytes. A character that a codec
cannot write is reported alone, by its position.
-/

namespace Lingo.Codec

/-- The multibyte codecs. -/
inductive Multibyte where
  | eucJp
  | shiftJis
  | cp932
  | eucJis2004
  | eucJisx0213
  | shiftJis2004
  | shiftJisx0213
  | gb2312
  | gbk
  | gb18030
  | hz
  | big5
  | cp950
  | big5hkscs
  | eucKr
  | cp949
  | johab
  | iso2022 (v : Iso2022.Variant)

/-- The name of a multibyte codec. -/
def Multibyte.name : Multibyte → String
  | .eucJp => "euc_jp"
  | .shiftJis => "shift_jis"
  | .cp932 => "cp932"
  | .eucJis2004 => "euc_jis_2004"
  | .eucJisx0213 => "euc_jisx0213"
  | .shiftJis2004 => "shift_jis_2004"
  | .shiftJisx0213 => "shift_jisx0213"
  | .gb2312 => "gb2312"
  | .gbk => "gbk"
  | .gb18030 => "gb18030"
  | .hz => "hz"
  | .big5 => "big5"
  | .cp950 => "cp950"
  | .big5hkscs => "big5hkscs"
  | .eucKr => "euc_kr"
  | .cp949 => "cp949"
  | .johab => "johab"
  | .iso2022 .jp => "iso2022_jp"
  | .iso2022 .jp1 => "iso2022_jp_1"
  | .iso2022 .jp2 => "iso2022_jp_2"
  | .iso2022 .jp2004 => "iso2022_jp_2004"
  | .iso2022 .jp3 => "iso2022_jp_3"
  | .iso2022 .jpExt => "iso2022_jp_ext"
  | .iso2022 .kr => "iso2022_kr"

/-- Every multibyte codec. -/
def Multibyte.all : List Multibyte :=
  [.eucJp, .shiftJis, .cp932, .eucJis2004, .eucJisx0213, .shiftJis2004, .shiftJisx0213, .gb2312,
   .gbk, .gb18030, .hz, .big5, .cp950, .big5hkscs, .eucKr, .cp949, .johab, .iso2022 .jp,
   .iso2022 .jp1, .iso2022 .jp2, .iso2022 .jp2004, .iso2022 .jp3, .iso2022 .jpExt, .iso2022 .kr]

/-- The multibyte codec of a name. -/
def Multibyte.ofName? (name : String) : Option Multibyte :=
  Multibyte.all.find? (·.name = name)

/-- Encodes code points with a multibyte codec: the bytes, or the position of the first character
it cannot write. -/
def Multibyte.encode (cps : List Nat) : Multibyte → Except Nat (List Nat)
  | .eucJp => (Encoder.ofSingle Japanese.eucJp).run cps
  | .shiftJis => (Encoder.ofSingle Japanese.shiftJis).run cps
  | .cp932 => (Encoder.ofSingle Japanese.cp932).run cps
  | .eucJis2004 => (Encoder.stateless (Japanese.jisX0213Step .y2004 false)).run cps
  | .eucJisx0213 => (Encoder.stateless (Japanese.jisX0213Step .y2000 false)).run cps
  | .shiftJis2004 => (Encoder.stateless (Japanese.jisX0213Step .y2004 true)).run cps
  | .shiftJisx0213 => (Encoder.stateless (Japanese.jisX0213Step .y2000 true)).run cps
  | .gb2312 => (Encoder.ofSingle Chinese.gb2312).run cps
  | .gbk => (Encoder.ofSingle Chinese.gbk).run cps
  | .gb18030 => (Encoder.ofSingle Chinese.gb18030).run cps
  | .hz => Chinese.hz.run cps
  | .big5 => (Encoder.ofSingle Chinese.big5).run cps
  | .cp950 => (Encoder.ofSingle Chinese.cp950).run cps
  | .big5hkscs => (Encoder.stateless Chinese.big5hkscsStep).run cps
  | .eucKr => (Encoder.ofSingle Korean.eucKr).run cps
  | .cp949 => (Encoder.ofSingle Korean.cp949).run cps
  | .johab => (Encoder.ofSingle Korean.johab).run cps
  | .iso2022 v => v.encoder.run cps

theorem Multibyte.encode_nil (m : Multibyte) : m.encode [] = .ok [] := by
  cases m <;> rfl

end Lingo.Codec
