import BrainfuckWasm.Text.LetterCase

/-!
# Media types of files

The type of a file is told by the suffix of its name, in either case. A compressed file has the type
of what is compressed, which the suffix before its last one tells; some suffixes stand for two of
that kind. A file whose suffix is not listed is a sequence of bytes.
-/

namespace BrainfuckWasm.Service

/-- The suffixes that files of each type have. -/
def typeSuffixes : List (String × List String) :=
  [("application/javascript", [".js", ".mjs"]), ("application/json", [".json"]),
    ("application/manifest+json", [".webmanifest"]),
    ("application/msword", [".doc", ".dot", ".wiz"]), ("application/n-quads", [".nq"]),
    ("application/n-triples", [".nt"]),
    ("application/octet-stream", [".a", ".bin", ".dll", ".exe", ".o", ".obj", ".so"]),
    ("application/oda", [".oda"]), ("application/pdf", [".pdf"]),
    ("application/pkcs7-mime", [".p7c"]), ("application/postscript", [".ai", ".eps", ".ps"]),
    ("application/trig", [".trig"]), ("application/vnd.apple.mpegurl", [".m3u", ".m3u8"]),
    ("application/vnd.ms-excel", [".xlb", ".xls"]),
    ("application/vnd.ms-powerpoint", [".pot", ".ppa", ".pps", ".ppt", ".pwz"]),
    ("application/wasm", [".wasm"]), ("application/x-bcpio", [".bcpio"]),
    ("application/x-cpio", [".cpio"]), ("application/x-csh", [".csh"]),
    ("application/x-dvi", [".dvi"]), ("application/x-gtar", [".gtar"]),
    ("application/x-hdf", [".hdf"]), ("application/x-hdf5", [".h5"]),
    ("application/x-latex", [".latex"]), ("application/x-mif", [".mif"]),
    ("application/x-netcdf", [".cdf", ".nc"]), ("application/x-pkcs12", [".p12", ".pfx"]),
    ("application/x-pn-realaudio", [".ram"]), ("application/x-python-code", [".pyc", ".pyo"]),
    ("application/x-sh", [".sh"]), ("application/x-shar", [".shar"]),
    ("application/x-shockwave-flash", [".swf"]), ("application/x-sv4cpio", [".sv4cpio"]),
    ("application/x-sv4crc", [".sv4crc"]), ("application/x-tar", [".tar"]),
    ("application/x-tcl", [".tcl"]), ("application/x-tex", [".tex"]),
    ("application/x-texinfo", [".texi", ".texinfo"]),
    ("application/x-troff", [".roff", ".t", ".tr"]), ("application/x-troff-man", [".man"]),
    ("application/x-troff-me", [".me"]), ("application/x-troff-ms", [".ms"]),
    ("application/x-ustar", [".ustar"]), ("application/x-wais-source", [".src"]),
    ("application/xml", [".rdf", ".wsdl", ".xpdl", ".xsl"]), ("application/zip", [".zip"]),
    ("audio/3gpp", [".3gp", ".3gpp"]), ("audio/3gpp2", [".3g2", ".3gpp2"]),
    ("audio/aac", [".aac", ".adts", ".ass", ".loas"]), ("audio/basic", [".au", ".snd"]),
    ("audio/mpeg", [".mp2", ".mp3"]), ("audio/opus", [".opus"]),
    ("audio/x-aiff", [".aif", ".aifc", ".aiff"]), ("audio/x-pn-realaudio", [".ra"]),
    ("audio/x-wav", [".wav"]), ("image/avif", [".avif"]), ("image/bmp", [".bmp"]),
    ("image/gif", [".gif"]), ("image/heic", [".heic"]), ("image/heif", [".heif"]),
    ("image/ief", [".ief"]), ("image/jpeg", [".jpe", ".jpeg", ".jpg"]), ("image/png", [".png"]),
    ("image/svg+xml", [".svg"]), ("image/tiff", [".tif", ".tiff"]),
    ("image/vnd.microsoft.icon", [".ico"]), ("image/x-cmu-raster", [".ras"]),
    ("image/x-portable-anymap", [".pnm"]), ("image/x-portable-bitmap", [".pbm"]),
    ("image/x-portable-graymap", [".pgm"]), ("image/x-portable-pixmap", [".ppm"]),
    ("image/x-rgb", [".rgb"]), ("image/x-xbitmap", [".xbm"]), ("image/x-xpixmap", [".xpm"]),
    ("image/x-xwindowdump", [".xwd"]), ("message/rfc822", [".eml", ".mht", ".mhtml", ".nws"]),
    ("text/css", [".css"]), ("text/csv", [".csv"]), ("text/html", [".htm", ".html"]),
    ("text/n3", [".n3"]), ("text/plain", [".bat", ".c", ".h", ".ksh", ".pl", ".srt", ".txt"]),
    ("text/richtext", [".rtx"]), ("text/tab-separated-values", [".tsv"]), ("text/vtt", [".vtt"]),
    ("text/x-python", [".py"]), ("text/x-setext", [".etx"]), ("text/x-sgml", [".sgm", ".sgml"]),
    ("text/x-vcard", [".vcf"]), ("text/xml", [".xml"]), ("video/mp4", [".mp4"]),
    ("video/mpeg", [".m1v", ".mpa", ".mpe", ".mpeg", ".mpg"]), ("video/quicktime", [".mov", ".qt"]),
    ("video/webm", [".webm"]), ("video/x-msvideo", [".avi"]), ("video/x-sgi-movie", [".movie"])]

/-- The suffixes of compressed files. -/
def compressedSuffixes : List String := [".gz", ".Z", ".bz2", ".xz", ".br"]

/-- The suffixes that stand for two, of which the second one tells the compression. -/
def doubleSuffixes : List (String × String) :=
  [(".svgz", ".svg.gz"), (".tgz", ".tar.gz"), (".taz", ".tar.gz"), (".tz", ".tar.gz"),
    (".tbz2", ".tar.bz2"), (".txz", ".tar.xz")]

/-- A name split before its last dot, unless there are only dots before that one. -/
def splitSuffix (name : List Char) : List Char × List Char :=
  let backwards := name.reverse
  match backwards.dropWhile (· ≠ '.') with
  | [] => (name, [])
  | _ :: front =>
    if front.all (· = '.') then (name, [])
    else (front.reverse, '.' :: (backwards.takeWhile (· ≠ '.')).reverse)

/-- A suffix in lower case. -/
def lowerSuffix (suffix : List Char) : String :=
  String.ofList (Text.lowercase suffix)

/-- The suffix that tells the type of a file, in lower case. -/
def tellingSuffix (name : List Char) : String :=
  let (stem, suffix) := splitSuffix name
  let (stem, suffix) := match doubleSuffixes.lookup (lowerSuffix suffix) with
    | some double => splitSuffix (stem ++ double.toList)
    | none => (stem, suffix)
  if compressedSuffixes.contains (String.ofList suffix) then lowerSuffix (splitSuffix stem).2
  else lowerSuffix suffix

/-- The type of files that are not known to have another one. -/
def unknownType : String := "application/octet-stream"

/-- The type of the file with a name. -/
def mediaType (name : String) : String :=
  let suffix := tellingSuffix name.toList
  match typeSuffixes.find? fun (_, suffixes) => suffixes.contains suffix with
  | some (type, _) => type
  | none => unknownType

/-- The type that is announced for a content: text is in UTF-8. -/
def announcedType (type : String) : String :=
  if type.startsWith "text/" then type ++ "; charset=utf-8" else type

end BrainfuckWasm.Service
