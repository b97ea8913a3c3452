import ApiDocs.Live.Standard.Operation

/-! What texts, rows of bytes and other rows have. -/

namespace ApiDocs.Live.Standard

/-- What texts have. -/
def textMembers : List (Text × Member) :=
  remark [
    "str(object='') -> str",
    "str(bytes_or_buffer[, encoding[, errors]]) -> str",
    "",
    "Create a new string object from the given object. If encoding or",
    "errors is specified, then the object must expose a data buffer",
    "that will be decoded using the given encoding and error handler.",
    "Otherwise, returns the result of object.__str__() (if defined)",
    "or repr(object).",
    "encoding defaults to sys.getdefaultencoding().",
    "errors defaults to 'strict'."] ++
  [maker textId] ++
  operations [
    "__repr__", "__hash__", "__str__", "__getattribute__", "__lt__", "__le__", "__eq__", "__ne__", "__gt__",
    "__ge__", "__iter__", "__mod__", "__rmod__", "__len__", "__getitem__", "__add__", "__mul__", "__rmul__",
    "__contains__"] ++
  features .method [
    ("encode", "($self, /, encoding='utf-8', errors='strict')", [
      "Encode the string using the codec registered for encoding.", "", "  encoding",
      "    The encoding in which to encode the string.", "  errors",
      "    The error handling scheme to use for encoding errors.",
      "    The default is 'strict' meaning that encoding errors raise a",
      "    UnicodeEncodeError.  Other possible values are 'ignore', 'replace' and",
      "    'xmlcharrefreplace' as well as any other name registered with",
      "    codecs.register_error that can handle UnicodeEncodeErrors."]),
    ("replace", "($self, old, new, count=-1, /)", [
      "Return a copy with all occurrences of substring old replaced by new.", "", "  count",
      "    Maximum number of occurrences to replace.",
      "    -1 (the default value) means replace all occurrences.", "",
      "If the optional argument count is given, only the first count occurrences are", "replaced."]),
    ("split", "($self, /, sep=None, maxsplit=-1)", [
      "Return a list of the substrings in the string, using sep as the separator string.", "", "  sep",
      "    The separator used to split the string.", "",
      "    When set to None (the default value), will split on any whitespace",
      "    character (including \\n \\r \\t \\f and spaces) and will discard",
      "    empty strings from the result.", "  maxsplit", "    Maximum number of splits.",
      "    -1 (the default value) means no limit.", "",
      "Splitting starts at the front of the string and works to the end.", "",
      "Note, str.split() is mainly useful for data that has been intentionally",
      "delimited.  With natural text that includes punctuation, consider using", "the regular expression module."]),
    ("rsplit", "($self, /, sep=None, maxsplit=-1)", [
      "Return a list of the substrings in the string, using sep as the separator string.", "", "  sep",
      "    The separator used to split the string.", "",
      "    When set to None (the default value), will split on any whitespace",
      "    character (including \\n \\r \\t \\f and spaces) and will discard",
      "    empty strings from the result.", "  maxsplit", "    Maximum number of splits.",
      "    -1 (the default value) means no limit.", "",
      "Splitting starts at the end of the string and works to the front."]),
    ("join", "($self, iterable, /)", [
      "Concatenate any number of strings.", "",
      "The string whose method is called is inserted in between each given string.",
      "The result is returned as a new string.", "", "Example: '.'.join(['ab', 'pq', 'rs']) -> 'ab.pq.rs'"]),
    ("capitalize", "($self, /)", [
      "Return a capitalized version of the string.", "",
      "More specifically, make the first character have upper case and the rest lower", "case."]),
    ("casefold", "($self, /)", ["Return a version of the string suitable for caseless comparisons."]),
    ("title", "($self, /)", [
      "Return a version of the string where each word is titlecased.", "",
      "More specifically, words start with uppercased characters and all remaining",
      "cased characters have lower case."]),
    ("center", "($self, width, fillchar=' ', /)", [
      "Return a centered string of length width.", "",
      "Padding is done using the specified fill character (default is a space)."]),
    ("count", "", [
      "S.count(sub[, start[, end]]) -> int", "",
      "Return the number of non-overlapping occurrences of substring sub in",
      "string S[start:end].  Optional arguments start and end are", "interpreted as in slice notation."]),
    ("expandtabs", "($self, /, tabsize=8)", [
      "Return a copy where all tab characters are expanded using spaces.", "",
      "If tabsize is not given, a tab size of 8 characters is assumed."]),
    ("find", "", [
      "S.find(sub[, start[, end]]) -> int", "", "Return the lowest index in S where substring sub is found,",
      "such that sub is contained within S[start:end].  Optional",
      "arguments start and end are interpreted as in slice notation.", "", "Return -1 on failure."]),
    ("partition", "($self, sep, /)", [
      "Partition the string into three parts using the given separator.", "",
      "This will search for the separator in the string.  If the separator is found,",
      "returns a 3-tuple containing the part before the separator, the separator",
      "itself, and the part after it.", "",
      "If the separator is not found, returns a 3-tuple containing the original string", "and two empty strings."]),
    ("index", "", [
      "S.index(sub[, start[, end]]) -> int", "", "Return the lowest index in S where substring sub is found,",
      "such that sub is contained within S[start:end].  Optional",
      "arguments start and end are interpreted as in slice notation.", "",
      "Raises ValueError when the substring is not found."]),
    ("ljust", "($self, width, fillchar=' ', /)", [
      "Return a left-justified string of length width.", "",
      "Padding is done using the specified fill character (default is a space)."]),
    ("lower", "($self, /)", ["Return a copy of the string converted to lowercase."]),
    ("lstrip", "($self, chars=None, /)", [
      "Return a copy of the string with leading whitespace removed.", "",
      "If chars is given and not None, remove characters in chars instead."]),
    ("rfind", "", [
      "S.rfind(sub[, start[, end]]) -> int", "", "Return the highest index in S where substring sub is found,",
      "such that sub is contained within S[start:end].  Optional",
      "arguments start and end are interpreted as in slice notation.", "", "Return -1 on failure."]),
    ("rindex", "", [
      "S.rindex(sub[, start[, end]]) -> int", "", "Return the highest index in S where substring sub is found,",
      "such that sub is contained within S[start:end].  Optional",
      "arguments start and end are interpreted as in slice notation.", "",
      "Raises ValueError when the substring is not found."]),
    ("rjust", "($self, width, fillchar=' ', /)", [
      "Return a right-justified string of length width.", "",
      "Padding is done using the specified fill character (default is a space)."]),
    ("rstrip", "($self, chars=None, /)", [
      "Return a copy of the string with trailing whitespace removed.", "",
      "If chars is given and not None, remove characters in chars instead."]),
    ("rpartition", "($self, sep, /)", [
      "Partition the string into three parts using the given separator.", "",
      "This will search for the separator in the string, starting at the end. If",
      "the separator is found, returns a 3-tuple containing the part before the",
      "separator, the separator itself, and the part after it.", "",
      "If the separator is not found, returns a 3-tuple containing two empty strings", "and the original string."]),
    ("splitlines", "($self, /, keepends=False)", [
      "Return a list of the lines in the string, breaking at line boundaries.", "",
      "Line breaks are not included in the resulting list unless keepends is given and", "true."]),
    ("strip", "($self, chars=None, /)", [
      "Return a copy of the string with leading and trailing whitespace removed.", "",
      "If chars is given and not None, remove characters in chars instead."]),
    ("swapcase", "($self, /)", [
      "Convert uppercase characters to lowercase and lowercase characters to uppercase."]),
    ("translate", "($self, table, /)", [
      "Replace each character in the string using the given translation table.", "", "  table",
      "    Translation table, which must be a mapping of Unicode ordinals to",
      "    Unicode ordinals, strings, or None.", "",
      "The table must implement lookup/indexing via __getitem__, for instance a",
      "dictionary or list.  If this operation raises LookupError, the character is",
      "left untouched.  Characters mapped to None are deleted."]),
    ("upper", "($self, /)", ["Return a copy of the string converted to uppercase."]),
    ("startswith", "", [
      "S.startswith(prefix[, start[, end]]) -> bool", "",
      "Return True if S starts with the specified prefix, False otherwise.",
      "With optional start, test S beginning at that position.",
      "With optional end, stop comparing S at that position.", "prefix can also be a tuple of strings to try."]),
    ("endswith", "", [
      "S.endswith(suffix[, start[, end]]) -> bool", "",
      "Return True if S ends with the specified suffix, False otherwise.",
      "With optional start, test S beginning at that position.",
      "With optional end, stop comparing S at that position.", "suffix can also be a tuple of strings to try."]),
    ("removeprefix", "($self, prefix, /)", [
      "Return a str with the given prefix string removed if present.", "",
      "If the string starts with the prefix string, return string[len(prefix):].",
      "Otherwise, return a copy of the original string."]),
    ("removesuffix", "($self, suffix, /)", [
      "Return a str with the given suffix string removed if present.", "",
      "If the string ends with the suffix string and that suffix is not empty,",
      "return string[:-len(suffix)]. Otherwise, return a copy of the original", "string."]),
    ("isascii", "($self, /)", [
      "Return True if all characters in the string are ASCII, False otherwise.", "",
      "ASCII characters have code points in the range U+0000-U+007F.", "Empty string is ASCII too."]),
    ("islower", "($self, /)", [
      "Return True if the string is a lowercase string, False otherwise.", "",
      "A string is lowercase if all cased characters in the string are lowercase and",
      "there is at least one cased character in the string."]),
    ("isupper", "($self, /)", [
      "Return True if the string is an uppercase string, False otherwise.", "",
      "A string is uppercase if all cased characters in the string are uppercase and",
      "there is at least one cased character in the string."]),
    ("istitle", "($self, /)", [
      "Return True if the string is a title-cased string, False otherwise.", "",
      "In a title-cased string, upper- and title-case characters may only",
      "follow uncased characters and lowercase characters only cased ones."]),
    ("isspace", "($self, /)", [
      "Return True if the string is a whitespace string, False otherwise.", "",
      "A string is whitespace if all characters in the string are whitespace and there",
      "is at least one character in the string."]),
    ("isdecimal", "($self, /)", [
      "Return True if the string is a decimal string, False otherwise.", "",
      "A string is a decimal string if all characters in the string are decimal and",
      "there is at least one character in the string."]),
    ("isdigit", "($self, /)", [
      "Return True if the string is a digit string, False otherwise.", "",
      "A string is a digit string if all characters in the string are digits and there",
      "is at least one character in the string."]),
    ("isnumeric", "($self, /)", [
      "Return True if the string is a numeric string, False otherwise.", "",
      "A string is numeric if all characters in the string are numeric and there is at",
      "least one character in the string."]),
    ("isalpha", "($self, /)", [
      "Return True if the string is an alphabetic string, False otherwise.", "",
      "A string is alphabetic if all characters in the string are alphabetic and there",
      "is at least one character in the string."]),
    ("isalnum", "($self, /)", [
      "Return True if the string is an alpha-numeric string, False otherwise.", "",
      "A string is alpha-numeric if all characters in the string are alpha-numeric and",
      "there is at least one character in the string."]),
    ("isidentifier", "($self, /)", [
      "Return True if the string is a valid Python identifier, False otherwise.", "",
      "Call keyword.iskeyword(s) to test whether string s is a reserved identifier,",
      "such as \"def\" or \"class\"."]),
    ("isprintable", "($self, /)", [
      "Return True if the string is printable, False otherwise.", "",
      "A string is printable if all of its characters are considered printable in", "repr() or if it is empty."]),
    ("zfill", "($self, width, /)", [
      "Pad a numeric string with zeros on the left, to fill a field of the given width.", "",
      "The string is never truncated."]),
    ("format", "", [
      "S.format(*args, **kwargs) -> str", "",
      "Return a formatted version of S, using substitutions from args and kwargs.",
      "The substitutions are identified by braces ('\x7b' and '\x7d')."]),
    ("format_map", "", [
      "S.format_map(mapping) -> str", "", "Return a formatted version of S, using substitutions from mapping.",
      "The substitutions are identified by braces ('\x7b' and '\x7d')."]),
    ("__format__", "($self, format_spec, /)", [
      "Return a formatted version of the string as described by format_spec."]),
    ("__sizeof__", "($self, /)", ["Return the size of the string in memory, in bytes."])] ++
  bare .method ["__getnewargs__"] ++
  [free textId "maketrans" "(x, y=<unrepresentable>, z=<unrepresentable>, /)" [
    "Return a translation table usable for str.translate().",
    "",
    "If there is only one argument, it must be a dictionary mapping Unicode",
    "ordinals (integers) or characters to Unicode ordinals, strings or None.",
    "Character keys will be then converted to ordinals.",
    "If there are two arguments, they must be strings of equal length, and",
    "in the resulting dictionary, each character in x will be mapped to the",
    "character at the same position in y. If there is a third argument, it",
    "must be a string, whose characters will be mapped to None in the result."]]

/-- The class of texts. -/
def textClass : Class := {
  home := "builtins", path := "str", isBuiltIn := true
  bases := [objectId], order := [textId, objectId]
  layout := some ⟨80, 0, 0, 0, 0x10481500⟩
  members := textMembers }

/-- What rows have. -/
def rowMembers : List (Text × Member) :=
  remark [
    "Built-in immutable sequence.",
    "",
    "If no argument is given, the constructor returns an empty tuple.",
    "If iterable is specified the tuple is initialized from iterable's items.",
    "",
    "If the argument is a tuple, the return value is the same object."] ++
  [maker rowId] ++
  operations [
    "__repr__", "__hash__", "__getattribute__", "__lt__", "__le__", "__eq__", "__ne__", "__gt__", "__ge__",
    "__iter__", "__len__", "__getitem__", "__add__", "__mul__", "__rmul__", "__contains__"] ++
  features .method [
    ("__getnewargs__", "($self, /)", []),
    ("index", "($self, value, start=0, stop=sys.maxsize, /)", [
      "Return first index of value.", "", "Raises ValueError if the value is not present."]),
    ("count", "($self, value, /)", ["Return number of occurrences of value."])] ++
  features .classwide [
    ("__class_getitem__", "", ["See PEP 585"])]

/-- The class of rows. -/
def rowClass : Class := {
  home := "builtins", path := "tuple", isBuiltIn := true
  bases := [objectId], order := [rowId, objectId]
  signature := unlines? ["(iterable=(), /)"]
  layout := some ⟨24, 8, 0, 0, 0x4485520⟩
  members := rowMembers }

/-- What rows of bytes have. -/
def bytesMembers : List (Text × Member) :=
  remark [
    "bytes(iterable_of_ints) -> bytes",
    "bytes(string, encoding[, errors]) -> bytes",
    "bytes(bytes_or_buffer) -> immutable copy of bytes_or_buffer",
    "bytes(int) -> bytes object of size given by the parameter initialized with null bytes",
    "bytes() -> empty bytes object",
    "",
    "Construct an immutable array of bytes from:",
    "  - an iterable yielding integers in range(256)",
    "  - a text string encoded using the specified encoding",
    "  - any object implementing the buffer API.",
    "  - an integer"] ++
  [maker bytesId] ++
  operations [
    "__repr__", "__hash__", "__str__", "__getattribute__", "__lt__", "__le__", "__eq__", "__ne__", "__gt__",
    "__ge__", "__iter__", "__mod__", "__rmod__", "__len__", "__getitem__", "__add__", "__mul__", "__rmul__",
    "__contains__"] ++
  features .method [
    ("__bytes__", "($self, /)", ["Convert this value to exact type bytes."]),
    ("capitalize", "", [
      "B.capitalize() -> copy of B", "", "Return a copy of B with only its first character capitalized (ASCII)",
      "and the rest lower-cased."]),
    ("center", "($self, width, fillchar=b' ', /)", [
      "Return a centered string of length width.", "", "Padding is done using the specified fill character."]),
    ("count", "", [
      "B.count(sub[, start[, end]]) -> int", "",
      "Return the number of non-overlapping occurrences of subsection sub in",
      "bytes B[start:end].  Optional arguments start and end are interpreted", "as in slice notation."]),
    ("decode", "($self, /, encoding='utf-8', errors='strict')", [
      "Decode the bytes using the codec registered for encoding.", "", "  encoding",
      "    The encoding with which to decode the bytes.", "  errors",
      "    The error handling scheme to use for the handling of decoding errors.",
      "    The default is 'strict' meaning that decoding errors raise a",
      "    UnicodeDecodeError. Other possible values are 'ignore' and 'replace'",
      "    as well as any other name registered with codecs.register_error that",
      "    can handle UnicodeDecodeErrors."]),
    ("endswith", "", [
      "B.endswith(suffix[, start[, end]]) -> bool", "",
      "Return True if B ends with the specified suffix, False otherwise.",
      "With optional start, test B beginning at that position.",
      "With optional end, stop comparing B at that position.", "suffix can also be a tuple of bytes to try."]),
    ("expandtabs", "($self, /, tabsize=8)", [
      "Return a copy where all tab characters are expanded using spaces.", "",
      "If tabsize is not given, a tab size of 8 characters is assumed."]),
    ("find", "", [
      "B.find(sub[, start[, end]]) -> int", "", "Return the lowest index in B where subsection sub is found,",
      "such that sub is contained within B[start,end].  Optional",
      "arguments start and end are interpreted as in slice notation.", "", "Return -1 on failure."]),
    ("hex", "($self, /, sep=<unrepresentable>, bytes_per_sep=1)", [
      "Create a string of hexadecimal numbers from a bytes object.", "", "  sep",
      "    An optional single character or byte to separate hex bytes.", "  bytes_per_sep",
      "    How many bytes between separators.  Positive values count from the",
      "    right, negative values count from the left.", "", "Example:", ">>> value = b'\\xb9\\x01\\xef'",
      ">>> value.hex()", "'b901ef'", ">>> value.hex(':')", "'b9:01:ef'", ">>> value.hex(':', 2)", "'b9:01ef'",
      ">>> value.hex(':', -2)", "'b901:ef'"]),
    ("index", "", [
      "B.index(sub[, start[, end]]) -> int", "", "Return the lowest index in B where subsection sub is found,",
      "such that sub is contained within B[start,end].  Optional",
      "arguments start and end are interpreted as in slice notation.", "",
      "Raises ValueError when the subsection is not found."]),
    ("isalnum", "", [
      "B.isalnum() -> bool", "", "Return True if all characters in B are alphanumeric",
      "and there is at least one character in B, False otherwise."]),
    ("isalpha", "", [
      "B.isalpha() -> bool", "", "Return True if all characters in B are alphabetic",
      "and there is at least one character in B, False otherwise."]),
    ("isascii", "", [
      "B.isascii() -> bool", "", "Return True if B is empty or all characters in B are ASCII,",
      "False otherwise."]),
    ("isdigit", "", [
      "B.isdigit() -> bool", "", "Return True if all characters in B are digits",
      "and there is at least one character in B, False otherwise."]),
    ("islower", "", [
      "B.islower() -> bool", "", "Return True if all cased characters in B are lowercase and there is",
      "at least one cased character in B, False otherwise."]),
    ("isspace", "", [
      "B.isspace() -> bool", "", "Return True if all characters in B are whitespace",
      "and there is at least one character in B, False otherwise."]),
    ("istitle", "", [
      "B.istitle() -> bool", "", "Return True if B is a titlecased string and there is at least one",
      "character in B, i.e. uppercase characters may only follow uncased",
      "characters and lowercase characters only cased ones. Return False", "otherwise."]),
    ("isupper", "", [
      "B.isupper() -> bool", "", "Return True if all cased characters in B are uppercase and there is",
      "at least one cased character in B, False otherwise."]),
    ("join", "($self, iterable_of_bytes, /)", [
      "Concatenate any number of bytes objects.", "",
      "The bytes whose method is called is inserted in between each pair.", "",
      "The result is returned as a new bytes object.", "",
      "Example: b'.'.join([b'ab', b'pq', b'rs']) -> b'ab.pq.rs'."]),
    ("ljust", "($self, width, fillchar=b' ', /)", [
      "Return a left-justified string of length width.", "",
      "Padding is done using the specified fill character."]),
    ("lower", "", [
      "B.lower() -> copy of B", "", "Return a copy of B with all ASCII characters converted to lowercase."]),
    ("lstrip", "($self, bytes=None, /)", [
      "Strip leading bytes contained in the argument.", "",
      "If the argument is omitted or None, strip leading  ASCII whitespace."]),
    ("partition", "($self, sep, /)", [
      "Partition the bytes into three parts using the given separator.", "",
      "This will search for the separator sep in the bytes. If the separator is found,",
      "returns a 3-tuple containing the part before the separator, the separator",
      "itself, and the part after it.", "",
      "If the separator is not found, returns a 3-tuple containing the original bytes",
      "object and two empty bytes objects."]),
    ("replace", "($self, old, new, count=-1, /)", [
      "Return a copy with all occurrences of substring old replaced by new.", "", "  count",
      "    Maximum number of occurrences to replace.",
      "    -1 (the default value) means replace all occurrences.", "",
      "If the optional argument count is given, only the first count occurrences are", "replaced."]),
    ("removeprefix", "($self, prefix, /)", [
      "Return a bytes object with the given prefix string removed if present.", "",
      "If the bytes starts with the prefix string, return bytes[len(prefix):].",
      "Otherwise, return a copy of the original bytes."]),
    ("removesuffix", "($self, suffix, /)", [
      "Return a bytes object with the given suffix string removed if present.", "",
      "If the bytes ends with the suffix string and that suffix is not empty,",
      "return bytes[:-len(prefix)].  Otherwise, return a copy of the original", "bytes."]),
    ("rfind", "", [
      "B.rfind(sub[, start[, end]]) -> int", "", "Return the highest index in B where subsection sub is found,",
      "such that sub is contained within B[start,end].  Optional",
      "arguments start and end are interpreted as in slice notation.", "", "Return -1 on failure."]),
    ("rindex", "", [
      "B.rindex(sub[, start[, end]]) -> int", "", "Return the highest index in B where subsection sub is found,",
      "such that sub is contained within B[start,end].  Optional",
      "arguments start and end are interpreted as in slice notation.", "",
      "Raise ValueError when the subsection is not found."]),
    ("rjust", "($self, width, fillchar=b' ', /)", [
      "Return a right-justified string of length width.", "",
      "Padding is done using the specified fill character."]),
    ("rpartition", "($self, sep, /)", [
      "Partition the bytes into three parts using the given separator.", "",
      "This will search for the separator sep in the bytes, starting at the end. If",
      "the separator is found, returns a 3-tuple containing the part before the",
      "separator, the separator itself, and the part after it.", "",
      "If the separator is not found, returns a 3-tuple containing two empty bytes",
      "objects and the original bytes object."]),
    ("rsplit", "($self, /, sep=None, maxsplit=-1)", [
      "Return a list of the sections in the bytes, using sep as the delimiter.", "", "  sep",
      "    The delimiter according which to split the bytes.",
      "    None (the default value) means split on ASCII whitespace characters",
      "    (space, tab, return, newline, formfeed, vertical tab).", "  maxsplit",
      "    Maximum number of splits to do.", "    -1 (the default value) means no limit.", "",
      "Splitting is done starting at the end of the bytes and working to the front."]),
    ("rstrip", "($self, bytes=None, /)", [
      "Strip trailing bytes contained in the argument.", "",
      "If the argument is omitted or None, strip trailing ASCII whitespace."]),
    ("split", "($self, /, sep=None, maxsplit=-1)", [
      "Return a list of the sections in the bytes, using sep as the delimiter.", "", "  sep",
      "    The delimiter according which to split the bytes.",
      "    None (the default value) means split on ASCII whitespace characters",
      "    (space, tab, return, newline, formfeed, vertical tab).", "  maxsplit",
      "    Maximum number of splits to do.", "    -1 (the default value) means no limit."]),
    ("splitlines", "($self, /, keepends=False)", [
      "Return a list of the lines in the bytes, breaking at line boundaries.", "",
      "Line breaks are not included in the resulting list unless keepends is given and", "true."]),
    ("startswith", "", [
      "B.startswith(prefix[, start[, end]]) -> bool", "",
      "Return True if B starts with the specified prefix, False otherwise.",
      "With optional start, test B beginning at that position.",
      "With optional end, stop comparing B at that position.", "prefix can also be a tuple of bytes to try."]),
    ("strip", "($self, bytes=None, /)", [
      "Strip leading and trailing bytes contained in the argument.", "",
      "If the argument is omitted or None, strip leading and trailing ASCII whitespace."]),
    ("swapcase", "", [
      "B.swapcase() -> copy of B", "", "Return a copy of B with uppercase ASCII characters converted",
      "to lowercase ASCII and vice versa."]),
    ("title", "", [
      "B.title() -> copy of B", "", "Return a titlecased version of B, i.e. ASCII words start with uppercase",
      "characters, all remaining cased characters have lowercase."]),
    ("translate", "($self, table, /, delete=b'')", [
      "Return a copy with each character mapped by the given translation table.", "", "  table",
      "    Translation table, which must be a bytes object of length 256.", "",
      "All characters occurring in the optional argument delete are removed.",
      "The remaining characters are mapped through the given translation table."]),
    ("upper", "", [
      "B.upper() -> copy of B", "", "Return a copy of B with all ASCII characters converted to uppercase."]),
    ("zfill", "($self, width, /)", [
      "Pad a numeric string with zeros on the left, to fill a field of the given width.", "",
      "The original string is never truncated."])] ++
  bare .method ["__getnewargs__"] ++
  features .classwide [
    ("fromhex", "($type, string, /)", [
      "Create a bytes object from a string of hexadecimal numbers.", "",
      "Spaces between two numbers are accepted.",
      "Example: bytes.fromhex('B9 01EF') -> b'\\\\xb9\\\\x01\\\\xef'."])] ++
  [free bytesId "maketrans" "(frm, to, /)" [
    "Return a translation table useable for the bytes or bytearray translate method.",
    "",
    "The returned table will be one where each byte in frm is mapped to the byte at",
    "the same position in to.",
    "",
    "The bytes objects frm and to must be of the same length."]]

/-- The class of rows of bytes. -/
def bytesClass : Class := {
  home := "builtins", path := "bytes", isBuiltIn := true
  bases := [objectId], order := [bytesId, objectId]
  layout := some ⟨33, 1, 0, 0, 0x8481500⟩
  members := bytesMembers }

end ApiDocs.Live.Standard
