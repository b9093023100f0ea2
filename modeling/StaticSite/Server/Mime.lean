import StaticSite.FileTree
import StaticSite.Text.Case

/-!
# Media types

The media type of a file follows from the last suffix of its name that is not a compression.
A file without a suffix is a page if it begins like one.
-/

namespace StaticSite

namespace Server

/-- The media types of the known suffixes, without their dots. -/
def mediaTypes : List (String × String) :=
  [("js", "application/javascript"), ("mjs", "application/javascript"),
    ("json", "application/json"), ("webmanifest", "application/manifest+json"),
    ("doc", "application/msword"), ("dot", "application/msword"), ("wiz", "application/msword"),
    ("nq", "application/n-quads"), ("nt", "application/n-triples"),
    ("bin", "application/octet-stream"), ("a", "application/octet-stream"),
    ("dll", "application/octet-stream"), ("exe", "application/octet-stream"),
    ("o", "application/octet-stream"), ("obj", "application/octet-stream"),
    ("so", "application/octet-stream"), ("oda", "application/oda"), ("pdf", "application/pdf"),
    ("p7c", "application/pkcs7-mime"), ("ps", "application/postscript"),
    ("ai", "application/postscript"), ("eps", "application/postscript"),
    ("trig", "application/trig"), ("m3u", "application/vnd.apple.mpegurl"),
    ("m3u8", "application/vnd.apple.mpegurl"), ("xls", "application/vnd.ms-excel"),
    ("xlb", "application/vnd.ms-excel"), ("ppt", "application/vnd.ms-powerpoint"),
    ("pot", "application/vnd.ms-powerpoint"), ("ppa", "application/vnd.ms-powerpoint"),
    ("pps", "application/vnd.ms-powerpoint"), ("pwz", "application/vnd.ms-powerpoint"),
    ("wasm", "application/wasm"), ("bcpio", "application/x-bcpio"),
    ("cpio", "application/x-cpio"), ("csh", "application/x-csh"), ("dvi", "application/x-dvi"),
    ("gtar", "application/x-gtar"), ("hdf", "application/x-hdf"), ("h5", "application/x-hdf5"),
    ("latex", "application/x-latex"), ("mif", "application/x-mif"),
    ("cdf", "application/x-netcdf"), ("nc", "application/x-netcdf"),
    ("p12", "application/x-pkcs12"), ("pfx", "application/x-pkcs12"),
    ("ram", "application/x-pn-realaudio"), ("pyc", "application/x-python-code"),
    ("pyo", "application/x-python-code"), ("sh", "application/x-sh"),
    ("shar", "application/x-shar"), ("swf", "application/x-shockwave-flash"),
    ("sv4cpio", "application/x-sv4cpio"), ("sv4crc", "application/x-sv4crc"),
    ("tar", "application/x-tar"), ("tcl", "application/x-tcl"), ("tex", "application/x-tex"),
    ("texi", "application/x-texinfo"), ("texinfo", "application/x-texinfo"),
    ("roff", "application/x-troff"), ("t", "application/x-troff"), ("tr", "application/x-troff"),
    ("man", "application/x-troff-man"), ("me", "application/x-troff-me"),
    ("ms", "application/x-troff-ms"), ("ustar", "application/x-ustar"),
    ("src", "application/x-wais-source"), ("xsl", "application/xml"), ("rdf", "application/xml"),
    ("wsdl", "application/xml"), ("xpdl", "application/xml"), ("zip", "application/zip"),
    ("3gp", "audio/3gpp"), ("3gpp", "audio/3gpp"), ("3g2", "audio/3gpp2"),
    ("3gpp2", "audio/3gpp2"), ("aac", "audio/aac"), ("adts", "audio/aac"), ("loas", "audio/aac"),
    ("ass", "audio/aac"), ("au", "audio/basic"), ("snd", "audio/basic"), ("mp3", "audio/mpeg"),
    ("mp2", "audio/mpeg"), ("opus", "audio/opus"), ("aif", "audio/x-aiff"),
    ("aifc", "audio/x-aiff"), ("aiff", "audio/x-aiff"), ("ra", "audio/x-pn-realaudio"),
    ("wav", "audio/x-wav"), ("avif", "image/avif"), ("bmp", "image/bmp"), ("gif", "image/gif"),
    ("ief", "image/ief"), ("jpg", "image/jpeg"), ("jpe", "image/jpeg"), ("jpeg", "image/jpeg"),
    ("heic", "image/heic"), ("heif", "image/heif"), ("png", "image/png"),
    ("svg", "image/svg+xml"), ("tiff", "image/tiff"), ("tif", "image/tiff"),
    ("ico", "image/vnd.microsoft.icon"), ("ras", "image/x-cmu-raster"),
    ("pnm", "image/x-portable-anymap"), ("pbm", "image/x-portable-bitmap"),
    ("pgm", "image/x-portable-graymap"), ("ppm", "image/x-portable-pixmap"),
    ("rgb", "image/x-rgb"), ("xbm", "image/x-xbitmap"), ("xpm", "image/x-xpixmap"),
    ("xwd", "image/x-xwindowdump"), ("eml", "message/rfc822"), ("mht", "message/rfc822"),
    ("mhtml", "message/rfc822"), ("nws", "message/rfc822"), ("css", "text/css"),
    ("csv", "text/csv"), ("html", "text/html"), ("htm", "text/html"), ("n3", "text/n3"),
    ("txt", "text/plain"), ("bat", "text/plain"), ("c", "text/plain"), ("h", "text/plain"),
    ("ksh", "text/plain"), ("pl", "text/plain"), ("srt", "text/plain"), ("rtx", "text/richtext"),
    ("tsv", "text/tab-separated-values"), ("vtt", "text/vtt"), ("py", "text/x-python"),
    ("etx", "text/x-setext"), ("sgm", "text/x-sgml"), ("sgml", "text/x-sgml"),
    ("vcf", "text/x-vcard"), ("xml", "text/xml"), ("mp4", "video/mp4"), ("mpeg", "video/mpeg"),
    ("m1v", "video/mpeg"), ("mpa", "video/mpeg"), ("mpe", "video/mpeg"), ("mpg", "video/mpeg"),
    ("mov", "video/quicktime"), ("qt", "video/quicktime"), ("webm", "video/webm"),
    ("avi", "video/x-msvideo"), ("movie", "video/x-sgi-movie")]

def doubleSuffixes : List (String × String) :=
  [("svgz", ".svg.gz"), ("tgz", ".tar.gz"), ("taz", ".tar.gz"), ("tz", ".tar.gz"),
    ("tbz2", ".tar.bz2"), ("txz", ".tar.xz")]

def compressions : List String := ["gz", "Z", "bz2", "xz", "br"]

/-- A name without its last suffix, and that suffix without its dot.  Dots at the beginning of
a name begin no suffix. -/
def splitSuffix (name : Text) : Text × Option Text :=
  match Text.cutLast? '.' name with
  | some (base, suffix) =>
    if base.all (· = '.') then (name, none) else (base, some suffix)
  | none => (name, none)

def lookupText (key : Text) (table : List (String × String)) : Option Text :=
  (table.find? fun (candidate, _) => candidate.toList = key).map fun (_, value) => value.toList

/-- A name in which a suffix that stands for two is written as these. -/
def expandSuffix (name : Text) : Text :=
  match splitSuffix name with
  | (base, some suffix) =>
    match lookupText (Text.lower suffix) doubleSuffixes with
    | some written => base ++ written
    | none => name
  | _ => name

def dropCompression (name : Text) : Text :=
  match splitSuffix name with
  | (base, some suffix) => if compressions.any (·.toList = suffix) then base else name
  | _ => name

def dropNameScheme (name : Text) : Text :=
  match Text.cut? ":" name with
  | some (_ :: _, rest) => rest
  | _ => name

/-- The media type that a name of the scheme `data` states. -/
def statedType? (name : Text) : Option Text :=
  (Text.cut? "," name).map fun (before, _) =>
    let stated := before.takeWhile (· ≠ ';')
    if '=' ∈ stated ∨ '/' ∉ stated then "text/plain".toList else stated

/-- The media type of a name, if it is known. -/
def typeOfName? (name : Text) : Option Text :=
  match Text.cut? ":" name with
  | some (scheme, rest) =>
    if Text.lower scheme = "data" then statedType? rest else typeOfBare? (dropNameScheme name)
  | none => typeOfBare? name
where
  /-- The media type of a name without a scheme. -/
  typeOfBare? (name : Text) : Option Text :=
    match splitSuffix (dropCompression (expandSuffix name)) with
    | (_, some suffix) => lookupText (Text.lower suffix) mediaTypes
    | _ => none

def htmlType : Text := "text/html; charset=utf-8"

def binaryType : Text := "application/octet-stream"

def pageBeginnings : List String := ["<!DOCTYPE html", "<html"]

/-- Whether a content begins like a page within its first octets. -/
def beginsPage (content : Bytes) : Bool :=
  let head := Utf8.decodeIgnoring (content.take 64)
  pageBeginnings.any fun beginning => Text.startsWith beginning.toList head

def isTextual (mediaType : Text) : Bool :=
  Text.startsWith "text/" mediaType || mediaType == "application/javascript".toList ||
    mediaType == "application/json".toList || mediaType == "application/xml".toList

/-- The type of a file.  One that cannot be read is binary. -/
def contentType (files : FileTree) (path : Path) : Except Fault Text :=
  if path.suffix.isEmpty then
    match files.read path with
    | .ok content => .ok (if beginsPage content then htmlType else binaryType)
    | .error (.file _) => .ok binaryType
    | .error fault => .error fault
  else
    match typeOfName? path.name with
    | none => .ok binaryType
    | some mediaType =>
      .ok (if isTextual mediaType then mediaType ++ "; charset=utf-8" else mediaType)

end Server

end StaticSite
