import SpeechClient.Text.Mark

/-!
# The direction of writing

A name that is written from right to left, in part or in whole, must still be read in one way only.
Every label of such a name keeps to one direction.  The table is of version 17 of the standard with
characters of version 18.
-/

namespace SpeechClient.Domain

inductive Direction where
  | leftToRight
  | rightToLeft
  | arabicLetter
  | europeanNumber
  | europeanSeparator
  | europeanTerminator
  | arabicNumber
  | commonSeparator
  /-- A nonspacing mark goes with the character before it. -/
  | mark
  | boundary
  | neutral
  /-- A blank, a separator of paragraphs or an explicit sign of direction. -/
  | other
  deriving DecidableEq, Repr

namespace Direction

def ofLetters? (letters : List Char) : Option Direction :=
  [("L", .leftToRight), ("R", .rightToLeft), ("AL", .arabicLetter), ("EN", .europeanNumber),
    ("ES", .europeanSeparator), ("ET", .europeanTerminator), ("AN", .arabicNumber),
    ("CS", .commonSeparator), ("BN", .boundary), ("ON", .neutral), ("O", other)].lookup
    (String.ofList letters)

/-- The directions other than from left to right, nonspacing marks left out unless they are letters
in this. -/
def table : SpanTable Direction := .ofText ofLetters? "
    0-8:BN 9-d:O e-1b:BN 1c-20:O 21-22:ON 23-25:ET 26-2a:ON 2b:ES 2c:CS 2d:ES 2e-2f:CS 30-39:EN
    3a:CS 3b-40:ON 5b-60:ON 7b-7e:ON 7f-84:BN 85:O 86-9f:BN a0:CS a1:ON a2-a5:ET a6-a9:ON ab-ac:ON
    ad:BN ae-af:ON b0-b1:ET b2-b3:EN b4:ON b6-b8:ON b9:EN bb-bf:ON d7:ON f7:ON 2b9-2ba:ON
    2c2-2cf:ON 2d2-2df:ON 2e5-2ed:ON 2ef-2ff:ON 374-375:ON 37e:ON 384-385:ON 387:ON 3f6:ON 58a:ON
    58d-58e:ON 58f:ET 590:R 5be:R 5c0:R 5c3:R 5c6:R 5c8-5ff:R 600-605:AN 606-607:ON 608:AL
    609-60a:ET 60b:AL 60c:CS 60d:AL 60e-60f:ON 61b-64a:AL 660-669:AN 66a:ET 66b-66c:AN 66d-66f:AL
    671-6d5:AL 6dd:AN 6de:ON 6e5-6e6:AL 6e9:ON 6ee-6ef:AL 6f0-6f9:EN 6fa-710:AL 712-72f:AL
    74b-7a5:AL 7b1-7bf:AL 7c0-7ea:R 7f4-7f5:R 7f6-7f9:ON 7fa-7fc:R 7fe-815:R 81a:R 824:R 828:R
    82e-858:R 85c-85f:R 860-88f:AL 890-891:AN 892-896:AL 8a0-8c9:AL 8e2:AN 9f2-9f3:ET 9fb:ET
    af1:ET bf3-bf8:ON bf9:ET bfa:ON c78-c7e:ON cbf:L cc6:L e3f:ET f3a-f3d:ON 1390-1399:ON 1400:ON
    1680:O 169b-169c:ON 17db:ET 17f0-17f9:ON 1800-180a:ON 180e:BN 1940:ON 1944-1945:ON
    19de-19ff:ON 1fbd:ON 1fbf-1fc1:ON 1fcd-1fcf:ON 1fdd-1fdf:ON 1fed-1fef:ON 1ffd-1ffe:ON
    2000-200a:O 200b-200d:BN 200f:R 2010-2027:ON 2028-202e:O 202f:CS 2030-2034:ET 2035-2043:ON
    2044:CS 2045-205e:ON 205f:O 2060-2065:BN 2066-2069:O 206a-206f:BN 2070:EN 2074-2079:EN
    207a-207b:ES 207c-207e:ON 2080-2089:EN 208a-208b:ES 208c-208e:ON 20a0-20cf:ET 2100-2101:ON
    2103-2106:ON 2108-2109:ON 2114:ON 2116-2118:ON 211e-2123:ON 2125:ON 2127:ON 2129:ON 212e:ET
    213a-213b:ON 2140-2144:ON 214a-214d:ON 2150-215f:ON 2189-218b:ON 2190-2211:ON 2212:ES 2213:ET
    2214-2335:ON 237b-2394:ON 2396-2429:ON 2440-244a:ON 2460-2487:ON 2488-249b:EN 24ea-26ab:ON
    26ad-27ff:ON 2900-2b73:ON 2b76-2bff:ON 2ce5-2cea:ON 2cf9-2cff:ON 2e00-2e63:ON 2e80-2e99:ON
    2e9b-2ef3:ON 2f00-2fd5:ON 2ff0-2fff:ON 3000:O 3001-3004:ON 3008-3020:ON 3030:ON 3036-3037:ON
    303d-303f:ON 309b-309c:ON 30a0:ON 30fb:ON 31c0-31e5:ON 31ef:ON 321d-321e:ON 3250-325f:ON
    327c-327e:ON 32b1-32bf:ON 32cc-32cf:ON 3377-337a:ON 33de-33df:ON 33ff:ON 4dc0-4dff:ON
    a490-a4c6:ON a60d-a60f:ON a673:ON a67e-a67f:ON a700-a721:ON a788:ON a828-a82b:ON a838-a839:ET
    a874-a877:ON ab6a-ab6b:ON fb1d:R fb1f-fb28:R fb29:ES fb2a-fb4f:R fb50-fbc2:AL fbc3-fbd2:ON
    fbd3-fd3d:AL fd3e-fd4f:ON fd50-fd8f:AL fd90-fd91:ON fd92-fdc7:AL fdc8-fdcf:ON fdd0-fdef:BN
    fdf0-fdfc:AL fdfd-fdff:ON fe10-fe19:ON fe30-fe4f:ON fe50:CS fe51:ON fe52:CS fe54:ON fe55:CS
    fe56-fe5e:ON fe5f:ET fe60-fe61:ON fe62-fe63:ES fe64-fe66:ON fe68:ON fe69-fe6a:ET fe6b:ON
    fe70-fefe:AL feff:BN ff01-ff02:ON ff03-ff05:ET ff06-ff0a:ON ff0b:ES ff0c:CS ff0d:ES
    ff0e-ff0f:CS ff10-ff19:EN ff1a:CS ff1b-ff20:ON ff3b-ff40:ON ff5b-ff65:ON ffe0-ffe1:ET
    ffe2-ffe4:ON ffe5-ffe6:ET ffe8-ffee:ON fff0-fff8:BN fff9-fffd:ON fffe-ffff:BN 10101:ON
    10140-1018c:ON 10190-1019c:ON 101a0:ON 102e1-102fb:EN 10800-1091e:R 1091f:ON 10920-10a00:R
    10a04:R 10a07-10a0b:R 10a10-10a37:R 10a3b-10a3e:R 10a40-10ae4:R 10ae7-10b38:R 10b39-10b3f:ON
    10b40-10cff:R 10d00-10d23:AL 10d28-10d2f:AL 10d30-10d39:AN 10d3a-10d3f:AL 10d40-10d49:AN
    10d4a-10d68:R 10d6e:ON 10d6f-10e5f:R 10e60-10e7e:AN 10e7f-10eaa:R 10ead-10ebf:R 10ec0-10ecf:AL
    10ed0-10ed8:ON 10ed9-10ef9:AL 10f00-10f2f:R 10f30-10f45:AL 10f51-10f6f:AL 10f70-10f81:R
    10f86-10fff:R 11052-11065:ON 11660-1166c:ON 11a07-11a08:L 11c3f:L 11fd5-11fdc:ON
    11fdd-11fe0:ET 11fe1-11ff1:ON 16fe2:ON 1bca0-1bca3:BN 1cc00-1ccd5:ON 1ccf0-1ccf9:EN
    1ccfa-1ccfc:ON 1cd00-1ceb3:ON 1ceba-1ced0:ON 1cee0-1cef0:ON 1d173-1d17a:BN 1d1e9-1d1ea:ON
    1d200-1d241:ON 1d245:ON 1d300-1d356:ON 1d6c1:ON 1d6db:ON 1d6fb:ON 1d715:ON 1d735:ON 1d74f:ON
    1d76f:ON 1d789:ON 1d7a9:ON 1d7c3:ON 1d7ce-1d7ff:EN 1e2ff:ET 1e800-1e8cf:R 1e8d7-1e943:R
    1e94b-1ec6f:R 1ec70-1ecbf:AL 1ecc0-1ecff:R 1ed00-1ed4f:AL 1ed50-1edff:R 1ee00-1eeef:AL
    1eef0-1eef1:ON 1eef2-1eeff:AL 1ef00-1efff:R 1f000-1f02b:ON 1f030-1f093:ON 1f0a0-1f0ae:ON
    1f0b1-1f0bf:ON 1f0c1-1f0cf:ON 1f0d1-1f0f5:ON 1f100-1f10a:EN 1f10b-1f10f:ON 1f12f:ON
    1f16a-1f16f:ON 1f1ad:ON 1f260-1f265:ON 1f300-1f6d9:ON 1f6dc-1f6ec:ON 1f6f0-1f6fc:ON
    1f700-1f7d9:ON 1f7e0-1f7eb:ON 1f7f0:ON 1f800-1f80b:ON 1f810-1f847:ON 1f850-1f859:ON
    1f860-1f887:ON 1f890-1f8ad:ON 1f8b0-1f8bb:ON 1f8c0-1f8c1:ON 1f8d0-1f8d8:ON 1f900-1fa57:ON
    1fa60-1fa6d:ON 1fa70-1fa7c:ON 1fa80-1fa8c:ON 1fa8e-1fac6:ON 1fac8:ON 1facb:ON 1facd-1fadd:ON
    1fadf-1faeb:ON 1faef-1fafa:ON 1fb00-1fb92:ON 1fb94-1fbef:ON 1fbf0-1fbf9:EN 1fbfa:ON
    1fffe-1ffff:BN 2fffe-2ffff:BN 3fffe-3ffff:BN 4fffe-4ffff:BN 5fffe-5ffff:BN 6fffe-6ffff:BN
    7fffe-7ffff:BN 8fffe-8ffff:BN 9fffe-9ffff:BN afffe-affff:BN bfffe-bffff:BN cfffe-cffff:BN
    dfffe-e00ff:BN e01f0-e0fff:BN efffe-effff:BN ffffe-fffff:BN 10fffe-10ffff:BN"

def of (c : Char) : Direction :=
  match table.value? c.toNat with
  | some direction => direction
  | none => if Text.isNonspacing c then .mark else .leftToRight

def isRightward (d : Direction) : Bool :=
  d matches .rightToLeft | .arabicLetter | .arabicNumber

def inLeftLabel (d : Direction) : Bool :=
  d matches .leftToRight | .europeanNumber | .europeanSeparator | .commonSeparator |
    .europeanTerminator | .neutral | .boundary | .mark

def inRightLabel (d : Direction) : Bool :=
  d matches .rightToLeft | .arabicLetter | .arabicNumber | .europeanNumber | .europeanSeparator |
    .commonSeparator | .europeanTerminator | .neutral | .boundary | .mark

def endsLeftLabel (d : Direction) : Bool :=
  d matches .leftToRight | .europeanNumber

def endsRightLabel (d : Direction) : Bool :=
  d matches .rightToLeft | .arabicLetter | .arabicNumber | .europeanNumber

end Direction

def withoutMarks (directions : List Direction) : List Direction :=
  (directions.reverse.dropWhile (· == .mark)).reverse

/-- A label of these directions can be read in one way only: the first sets the direction of all,
and a label from right to left has numbers of one kind. -/
def oneWay (directions : List Direction) : Bool :=
  let last? := (withoutMarks directions).getLast?
  match directions with
  | [] => true
  | .leftToRight :: _ => directions.all Direction.inLeftLabel && last?.any Direction.endsLeftLabel
  | .rightToLeft :: _ | .arabicLetter :: _ =>
    directions.all Direction.inRightLabel && last?.any Direction.endsRightLabel &&
      !(directions.contains .europeanNumber && directions.contains .arabicNumber)
  | _ => false

def keepsDirection (label : List Char) : Bool :=
  oneWay (label.map Direction.of)

end SpeechClient.Domain
