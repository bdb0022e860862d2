import SafeOutput.Text.Fold
import SafeOutput.Text.Hex

namespace SafeOutput.Accept

open Text

/-- What follows a dot of a path, plain or percent-encoded. -/
def dropDot? : Text → Option Text
  | '.' :: cs => some cs
  | '%' :: '2' :: c :: cs => if foldChar c = 'e' then some cs else none
  | _ => none

def endsSegment : Text → Bool
  | [] => true
  | c :: _ => c == '/' || c == '?' || c == '#'

def isParentSegment (cs : Text) : Bool :=
  match (dropDot? cs).bind dropDot? with
  | some rest => endsSegment rest
  | none => false

/-- Whether a slash before any query or fragment is followed by a segment of two dots. -/
def climbs : Text → Bool
  | [] => false
  | c :: cs => c != '?' && c != '#' && ((c == '/' && isParentSegment cs) || climbs cs)

def hasScheme (schemes : List String) (t : Text) : Bool :=
  schemes.any fun s => startsFolded (s.toList ++ [':']) t

def isUriSign (c : Char) : Bool :=
  c == '&' || c == ':' || c == '/' || c == '?' || c == '#'

/-- Whether the first of the signs `& : / ? #` in the text, if there is one, shows that the text
has no scheme. -/
def isSchemeless (t : Text) : Bool :=
  match t.dropWhile fun c => !isUriSign c with
  | [] => true
  | c :: _ => c != '&' && c != ':'

def isBase64Char (c : Char) : Bool :=
  isFoldedAlphanum c || c == '+' || c == '/'

/-- Whether the text is a non-empty run of base 64 digits with any padding. -/
def isBase64 (t : Text) : Bool :=
  !(t.takeWhile isBase64Char).isEmpty && (t.dropWhile isBase64Char).all (· == '=')

def isBase64Part (t : Text) : Bool :=
  (dropFolded? ";base64,".toList t).any isBase64

def isSubtypeChar (c : Char) : Bool :=
  isFoldedAlphanum c || c == '+' || c == '.' || c == '-'

def isMediaData (t : Text) : Bool :=
  ["data:image/", "data:audio/", "data:video/"].any fun start =>
    (dropFolded? start.toList t).any fun rest =>
      !(rest.takeWhile isSubtypeChar).isEmpty && isBase64Part (rest.dropWhile isSubtypeChar)

def isImageData (t : Text) : Bool :=
  ["bmp", "gif", "jpg", "jpeg", "png", "tiff", "webp", "x-icon"].any fun format =>
    (dropFolded? ("data:image/" ++ format).toList t).any isBase64Part

/-- Whether the text starts with a scheme, known or not. -/
def startsWithScheme : Text → Bool
  | [] => false
  | c :: cs => isFoldedLetter c && (cs.dropWhile isSubtypeChar).head? == some ':'

def isSafeUri (t : Text) : Bool :=
  !climbs t && (hasScheme ["http", "https", "mailto", "ftp"] t || isSchemeless t)

def isSafeMediaUri (t : Text) : Bool :=
  !climbs t && (hasScheme ["http", "https", "ftp", "blob"] t || isMediaData t || isSchemeless t)

def isLegacyUri (t : Text) : Bool :=
  !climbs t && !hasScheme ["javascript"] t && (startsWithScheme t || isSchemeless t)

/-- Characters of an address that is dialled, percent-encoded ones apart. -/
def isDialChar (c : Char) : Bool :=
  isFoldedAlphanum c || [';', '=', '-', '+', '.', '_', '!', '~', '*', '\'', ' ', '/', '(', ')', ':',
    '&', '$', '#', '?', '@', ','].contains c

def isDialString : Text → Bool
  | [] => true
  | '%' :: a :: b :: cs => isHexDigit a && isHexDigit b && isDialString cs
  | c :: cs => isDialChar c && isDialString cs

def isDialUri (scheme : String) (t : Text) : Bool :=
  (dropFolded? (scheme.toList ++ [':']) t).any isDialString

end SafeOutput.Accept
