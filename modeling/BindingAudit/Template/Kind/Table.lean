import BindingAudit.Template.Kind.Basic

/-!
# The kinds there are

The kinds of values that the name of a field can lead to, with the members that are defined for
each.
-/

namespace BindingAudit.Template

/-- The operations that stand behind operators, with their parameters and what they do.  These are
the same for all kinds. -/
def operatorTable : List (String × String × String) := [
  ("__repr__", "($self, /)", "Return repr(self)."),
  ("__hash__", "($self, /)", "Return hash(self)."),
  ("__str__", "($self, /)", "Return str(self)."),
  ("__getattribute__", "($self, name, /)", "Return getattr(self, name)."),
  ("__lt__", "($self, value, /)", "Return self<value."),
  ("__le__", "($self, value, /)", "Return self<=value."),
  ("__eq__", "($self, value, /)", "Return self==value."),
  ("__ne__", "($self, value, /)", "Return self!=value."),
  ("__gt__", "($self, value, /)", "Return self>value."),
  ("__ge__", "($self, value, /)", "Return self>=value."),
  ("__iter__", "($self, /)", "Implement iter(self)."),
  ("__mod__", "($self, value, /)", "Return self%value."),
  ("__rmod__", "($self, value, /)", "Return value%self."),
  ("__len__", "($self, /)", "Return len(self)."),
  ("__getitem__", "($self, key, /)", "Return self[key]."),
  ("__add__", "($self, value, /)", "Return self+value."),
  ("__mul__", "($self, value, /)", "Return self*value."),
  ("__rmul__", "($self, value, /)", "Return value*self."),
  ("__contains__", "($self, key, /)", "Return key in self."),
  ("__setattr__", "($self, name, value, /)", "Implement setattr(self, name, value)."),
  ("__delattr__", "($self, name, /)", "Implement delattr(self, name)."),
  ("__init__", "($self, /, *args, **kwargs)",
    "Initialize self.  See help(type(self)) for accurate signature."),
  ("__call__", "($self, /, *args, **kwargs)", "Call self as a function."),
  ("__or__", "($self, value, /)", "Return self|value."),
  ("__ror__", "($self, value, /)", "Return value|self."),
  ("__radd__", "($self, value, /)", "Return value+self."),
  ("__sub__", "($self, value, /)", "Return self-value."),
  ("__rsub__", "($self, value, /)", "Return value-self."),
  ("__divmod__", "($self, value, /)", "Return divmod(self, value)."),
  ("__rdivmod__", "($self, value, /)", "Return divmod(value, self)."),
  ("__pow__", "($self, value, mod=None, /)", "Return pow(self, value, mod)."),
  ("__rpow__", "($self, value, mod=None, /)", "Return pow(value, self, mod)."),
  ("__neg__", "($self, /)", "-self"),
  ("__pos__", "($self, /)", "+self"),
  ("__abs__", "($self, /)", "abs(self)"),
  ("__bool__", "($self, /)", "True if self else False"),
  ("__invert__", "($self, /)", "~self"),
  ("__lshift__", "($self, value, /)", "Return self<<value."),
  ("__rlshift__", "($self, value, /)", "Return value<<self."),
  ("__rshift__", "($self, value, /)", "Return self>>value."),
  ("__rrshift__", "($self, value, /)", "Return value>>self."),
  ("__and__", "($self, value, /)", "Return self&value."),
  ("__rand__", "($self, value, /)", "Return value&self."),
  ("__xor__", "($self, value, /)", "Return self^value."),
  ("__rxor__", "($self, value, /)", "Return value^self."),
  ("__int__", "($self, /)", "int(self)"),
  ("__float__", "($self, /)", "float(self)"),
  ("__floordiv__", "($self, value, /)", "Return self//value."),
  ("__rfloordiv__", "($self, value, /)", "Return value//self."),
  ("__truediv__", "($self, value, /)", "Return self/value."),
  ("__rtruediv__", "($self, value, /)", "Return value/self."),
  ("__index__", "($self, /)",
    "Return self converted to an integer, if self is suitable for use as an index into a list."),
  ("__get__", "($self, instance, owner=None, /)",
    "Return an attribute of instance, which is of type owner."),
  ("__set__", "($self, instance, value, /)", "Set an attribute of instance to value."),
  ("__delete__", "($self, instance, /)", "Delete an attribute of instance."),
  ("__ior__", "($self, value, /)", "Return self|=value.")]

/-- The members of some names that stand behind operators. -/
def operators (names : List String) : List Member :=
  names.map fun name =>
    let known := operatorTable.find? fun o => o.1 == name
    { name, form := .operator, signature := known.map (·.2.1), doc := known.map (·.2.2) }

/-- The members of some names that are found out. -/
def attributes (names : List String) : List Member :=
  names.map fun name => { name, form := .attribute }

/-- The members of some names that are kept. -/
def slots (names : List String) : List Member :=
  names.map fun name => { name, form := .slot }

/-- The member that makes values. -/
def maker : Member where
  name := "__new__"
  form := .maker
  signature := some "($type, *args, **kwargs)"
  doc := some "Create and return a new object.  See help(type) for accurate signature."

/-- The description of texts. -/
def textDoc : String :=
  "str(object='') -> str\nstr(bytes_or_buffer[, encoding[, errors]]) -> str\n\nCreate a new "
    ++ "string object from the given object. If encoding or\nerrors is specified, then the "
    ++ "object must expose a data buffer\nthat will be decoded using the given encoding and "
    ++ "error handler.\nOtherwise, returns the result of object.__str__() (if defined)\nor "
    ++ "repr(object).\nencoding defaults to sys.getdefaultencoding().\nerrors defaults to "
    ++ "'strict'."

/-- The members that are defined for texts. -/
def textMembers : List Member :=
  [maker] ++
  operators [
    "__repr__", "__hash__", "__str__", "__getattribute__", "__lt__", "__le__", "__eq__", "__ne__",
    "__gt__", "__ge__", "__iter__", "__mod__", "__rmod__", "__len__", "__getitem__", "__add__",
    "__mul__", "__rmul__", "__contains__"] ++
  [
    { name := "encode", form := .call
      signature := some "($self, /, encoding='utf-8', errors='strict')"
      doc := some ("Encode the string using the codec registered for encoding.\n\n  "
        ++ "encoding\n    The encoding in which to encode the string.\n  errors\n    The error "
        ++ "handling scheme to use for encoding errors.\n    The default is 'strict' meaning "
        ++ "that encoding errors raise a\n    UnicodeEncodeError.  Other possible values are "
        ++ "'ignore', 'replace' and\n    'xmlcharrefreplace' as well as any other name "
        ++ "registered with\n    codecs.register_error that can handle UnicodeEncodeErrors.") },
    { name := "replace", form := .call, signature := some "($self, old, new, count=-1, /)"
      doc := some ("Return a copy with all occurrences of substring old replaced by new.\n\n "
        ++ " count\n    Maximum number of occurrences to replace.\n    -1 (the default value) "
        ++ "means replace all occurrences.\n\nIf the optional argument count is given, only the "
        ++ "first count occurrences are\nreplaced.") },
    { name := "split", form := .call, signature := some "($self, /, sep=None, maxsplit=-1)"
      doc := some ("Return a list of the substrings in the string, using sep as the "
        ++ "separator string.\n\n  sep\n    The separator used to split the string.\n\n    When "
        ++ "set to None (the default value), will split on any whitespace\n    character "
        ++ "(including \\n \\r \\t \\f and spaces) and will discard\n    empty strings from the "
        ++ "result.\n  maxsplit\n    Maximum number of splits.\n    -1 (the default value) means "
        ++ "no limit.\n\nSplitting starts at the front of the string and works to the "
        ++ "end.\n\nNote, str.split() is mainly useful for data that has been "
        ++ "intentionally\ndelimited.  With natural text that includes punctuation, consider "
        ++ "using\nthe regular expression module.") },
    { name := "rsplit", form := .call, signature := some "($self, /, sep=None, maxsplit=-1)"
      doc := some ("Return a list of the substrings in the string, using sep as the "
        ++ "separator string.\n\n  sep\n    The separator used to split the string.\n\n    When "
        ++ "set to None (the default value), will split on any whitespace\n    character "
        ++ "(including \\n \\r \\t \\f and spaces) and will discard\n    empty strings from the "
        ++ "result.\n  maxsplit\n    Maximum number of splits.\n    -1 (the default value) means "
        ++ "no limit.\n\nSplitting starts at the end of the string and works to the front.") },
    { name := "join", form := .call, signature := some "($self, iterable, /)"
      doc := some ("Concatenate any number of strings.\n\nThe string whose method is called "
        ++ "is inserted in between each given string.\nThe result is returned as a new "
        ++ "string.\n\nExample: '.'.join(['ab', 'pq', 'rs']) -> 'ab.pq.rs'") },
    { name := "capitalize", form := .call, signature := some "($self, /)"
      doc := some ("Return a capitalized version of the string.\n\nMore specifically, make "
        ++ "the first character have upper case and the rest lower\ncase.") },
    { name := "casefold", form := .call, signature := some "($self, /)"
      doc := some "Return a version of the string suitable for caseless comparisons." },
    { name := "title", form := .call, signature := some "($self, /)"
      doc := some ("Return a version of the string where each word is titlecased.\n\nMore "
        ++ "specifically, words start with uppercased characters and all remaining\ncased "
        ++ "characters have lower case.") },
    { name := "center", form := .call, signature := some "($self, width, fillchar=' ', /)"
      doc := some ("Return a centered string of length width.\n\nPadding is done using the "
        ++ "specified fill character (default is a space).") },
    { name := "count", form := .call
      doc := some ("S.count(sub[, start[, end]]) -> int\n\nReturn the number of "
        ++ "non-overlapping occurrences of substring sub in\nstring S[start:end].  Optional "
        ++ "arguments start and end are\ninterpreted as in slice notation.") },
    { name := "expandtabs", form := .call, signature := some "($self, /, tabsize=8)"
      doc := some ("Return a copy where all tab characters are expanded using spaces.\n\nIf "
        ++ "tabsize is not given, a tab size of 8 characters is assumed.") },
    { name := "find", form := .call
      doc := some ("S.find(sub[, start[, end]]) -> int\n\nReturn the lowest index in S where "
        ++ "substring sub is found,\nsuch that sub is contained within S[start:end].  "
        ++ "Optional\narguments start and end are interpreted as in slice notation.\n\nReturn -1 "
        ++ "on failure.") },
    { name := "partition", form := .call, signature := some "($self, sep, /)"
      doc := some ("Partition the string into three parts using the given separator.\n\nThis "
        ++ "will search for the separator in the string.  If the separator is found,\nreturns a "
        ++ "3-tuple containing the part before the separator, the separator\nitself, and the "
        ++ "part after it.\n\nIf the separator is not found, returns a 3-tuple containing the "
        ++ "original string\nand two empty strings.") },
    { name := "index", form := .call
      doc := some ("S.index(sub[, start[, end]]) -> int\n\nReturn the lowest index in S "
        ++ "where substring sub is found,\nsuch that sub is contained within S[start:end].  "
        ++ "Optional\narguments start and end are interpreted as in slice notation.\n\nRaises "
        ++ "ValueError when the substring is not found.") },
    { name := "ljust", form := .call, signature := some "($self, width, fillchar=' ', /)"
      doc := some ("Return a left-justified string of length width.\n\nPadding is done using "
        ++ "the specified fill character (default is a space).") },
    { name := "lower", form := .call, signature := some "($self, /)"
      doc := some "Return a copy of the string converted to lowercase." },
    { name := "lstrip", form := .call, signature := some "($self, chars=None, /)"
      doc := some ("Return a copy of the string with leading whitespace removed.\n\nIf chars "
        ++ "is given and not None, remove characters in chars instead.") },
    { name := "rfind", form := .call
      doc := some ("S.rfind(sub[, start[, end]]) -> int\n\nReturn the highest index in S "
        ++ "where substring sub is found,\nsuch that sub is contained within S[start:end].  "
        ++ "Optional\narguments start and end are interpreted as in slice notation.\n\nReturn -1 "
        ++ "on failure.") },
    { name := "rindex", form := .call
      doc := some ("S.rindex(sub[, start[, end]]) -> int\n\nReturn the highest index in S "
        ++ "where substring sub is found,\nsuch that sub is contained within S[start:end].  "
        ++ "Optional\narguments start and end are interpreted as in slice notation.\n\nRaises "
        ++ "ValueError when the substring is not found.") },
    { name := "rjust", form := .call, signature := some "($self, width, fillchar=' ', /)"
      doc := some ("Return a right-justified string of length width.\n\nPadding is done "
        ++ "using the specified fill character (default is a space).") },
    { name := "rstrip", form := .call, signature := some "($self, chars=None, /)"
      doc := some ("Return a copy of the string with trailing whitespace removed.\n\nIf "
        ++ "chars is given and not None, remove characters in chars instead.") },
    { name := "rpartition", form := .call, signature := some "($self, sep, /)"
      doc := some ("Partition the string into three parts using the given separator.\n\nThis "
        ++ "will search for the separator in the string, starting at the end. If\nthe separator "
        ++ "is found, returns a 3-tuple containing the part before the\nseparator, the separator "
        ++ "itself, and the part after it.\n\nIf the separator is not found, returns a 3-tuple "
        ++ "containing two empty strings\nand the original string.") },
    { name := "splitlines", form := .call, signature := some "($self, /, keepends=False)"
      doc := some ("Return a list of the lines in the string, breaking at line "
        ++ "boundaries.\n\nLine breaks are not included in the resulting list unless keepends is "
        ++ "given and\ntrue.") },
    { name := "strip", form := .call, signature := some "($self, chars=None, /)"
      doc := some ("Return a copy of the string with leading and trailing whitespace "
        ++ "removed.\n\nIf chars is given and not None, remove characters in chars instead.") },
    { name := "swapcase", form := .call, signature := some "($self, /)"
      doc := some ("Convert uppercase characters to lowercase and lowercase characters to "
        ++ "uppercase.") },
    { name := "translate", form := .call, signature := some "($self, table, /)"
      doc := some ("Replace each character in the string using the given translation "
        ++ "table.\n\n  table\n    Translation table, which must be a mapping of Unicode "
        ++ "ordinals to\n    Unicode ordinals, strings, or None.\n\nThe table must implement "
        ++ "lookup/indexing via __getitem__, for instance a\ndictionary or list.  If this "
        ++ "operation raises LookupError, the character is\nleft untouched.  Characters mapped "
        ++ "to None are deleted.") },
    { name := "upper", form := .call, signature := some "($self, /)"
      doc := some "Return a copy of the string converted to uppercase." },
    { name := "startswith", form := .call
      doc := some ("S.startswith(prefix[, start[, end]]) -> bool\n\nReturn True if S starts "
        ++ "with the specified prefix, False otherwise.\nWith optional start, test S beginning "
        ++ "at that position.\nWith optional end, stop comparing S at that position.\nprefix can "
        ++ "also be a tuple of strings to try.") },
    { name := "endswith", form := .call
      doc := some ("S.endswith(suffix[, start[, end]]) -> bool\n\nReturn True if S ends with "
        ++ "the specified suffix, False otherwise.\nWith optional start, test S beginning at "
        ++ "that position.\nWith optional end, stop comparing S at that position.\nsuffix can "
        ++ "also be a tuple of strings to try.") },
    { name := "removeprefix", form := .call, signature := some "($self, prefix, /)"
      doc := some ("Return a str with the given prefix string removed if present.\n\nIf the "
        ++ "string starts with the prefix string, return string[len(prefix):].\nOtherwise, "
        ++ "return a copy of the original string.") },
    { name := "removesuffix", form := .call, signature := some "($self, suffix, /)"
      doc := some ("Return a str with the given suffix string removed if present.\n\nIf the "
        ++ "string ends with the suffix string and that suffix is not empty,\nreturn "
        ++ "string[:-len(suffix)]. Otherwise, return a copy of the original\nstring.") },
    { name := "isascii", form := .call, signature := some "($self, /)"
      doc := some ("Return True if all characters in the string are ASCII, False "
        ++ "otherwise.\n\nASCII characters have code points in the range U+0000-U+007F.\nEmpty "
        ++ "string is ASCII too.") },
    { name := "islower", form := .call, signature := some "($self, /)"
      doc := some ("Return True if the string is a lowercase string, False otherwise.\n\nA "
        ++ "string is lowercase if all cased characters in the string are lowercase and\nthere "
        ++ "is at least one cased character in the string.") },
    { name := "isupper", form := .call, signature := some "($self, /)"
      doc := some ("Return True if the string is an uppercase string, False otherwise.\n\nA "
        ++ "string is uppercase if all cased characters in the string are uppercase and\nthere "
        ++ "is at least one cased character in the string.") },
    { name := "istitle", form := .call, signature := some "($self, /)"
      doc := some ("Return True if the string is a title-cased string, False "
        ++ "otherwise.\n\nIn a title-cased string, upper- and title-case characters may "
        ++ "only\nfollow uncased characters and lowercase characters only cased ones.") },
    { name := "isspace", form := .call, signature := some "($self, /)"
      doc := some ("Return True if the string is a whitespace string, False otherwise.\n\nA "
        ++ "string is whitespace if all characters in the string are whitespace and there\nis at "
        ++ "least one character in the string.") },
    { name := "isdecimal", form := .call, signature := some "($self, /)"
      doc := some ("Return True if the string is a decimal string, False otherwise.\n\nA "
        ++ "string is a decimal string if all characters in the string are decimal and\nthere is "
        ++ "at least one character in the string.") },
    { name := "isdigit", form := .call, signature := some "($self, /)"
      doc := some ("Return True if the string is a digit string, False otherwise.\n\nA "
        ++ "string is a digit string if all characters in the string are digits and there\nis at "
        ++ "least one character in the string.") },
    { name := "isnumeric", form := .call, signature := some "($self, /)"
      doc := some ("Return True if the string is a numeric string, False otherwise.\n\nA "
        ++ "string is numeric if all characters in the string are numeric and there is at\nleast "
        ++ "one character in the string.") },
    { name := "isalpha", form := .call, signature := some "($self, /)"
      doc := some ("Return True if the string is an alphabetic string, False otherwise.\n\nA "
        ++ "string is alphabetic if all characters in the string are alphabetic and there\nis at "
        ++ "least one character in the string.") },
    { name := "isalnum", form := .call, signature := some "($self, /)"
      doc := some ("Return True if the string is an alpha-numeric string, False "
        ++ "otherwise.\n\nA string is alpha-numeric if all characters in the string are "
        ++ "alpha-numeric and\nthere is at least one character in the string.") },
    { name := "isidentifier", form := .call, signature := some "($self, /)"
      doc := some ("Return True if the string is a valid Python identifier, False "
        ++ "otherwise.\n\nCall keyword.iskeyword(s) to test whether string s is a reserved "
        ++ "identifier,\nsuch as \"def\" or \"class\".") },
    { name := "isprintable", form := .call, signature := some "($self, /)"
      doc := some ("Return True if the string is printable, False otherwise.\n\nA string is "
        ++ "printable if all of its characters are considered printable in\nrepr() or if it is "
        ++ "empty.") },
    { name := "zfill", form := .call, signature := some "($self, width, /)"
      doc := some ("Pad a numeric string with zeros on the left, to fill a field of the "
        ++ "given width.\n\nThe string is never truncated.") },
    { name := "format", form := .call
      doc := some ("S.format(*args, **kwargs) -> str\n\nReturn a formatted version of S, "
        ++ "using substitutions from args and kwargs.\nThe substitutions are identified by "
        ++ "braces ('\x7b' and '\x7d').") },
    { name := "format_map", form := .call
      doc := some ("S.format_map(mapping) -> str\n\nReturn a formatted version of S, using "
        ++ "substitutions from mapping.\nThe substitutions are identified by braces ('\x7b' and "
        ++ "'\x7d').") },
    { name := "__format__", form := .call, signature := some "($self, format_spec, /)"
      doc := some "Return a formatted version of the string as described by format_spec." },
    { name := "maketrans", form := .fixed
      signature := some "(x, y=<unrepresentable>, z=<unrepresentable>, /)"
      doc := some ("Return a translation table usable for str.translate().\n\nIf there is "
        ++ "only one argument, it must be a dictionary mapping Unicode\nordinals (integers) or "
        ++ "characters to Unicode ordinals, strings or None.\nCharacter keys will be then "
        ++ "converted to ordinals.\nIf there are two arguments, they must be strings of equal "
        ++ "length, and\nin the resulting dictionary, each character in x will be mapped to "
        ++ "the\ncharacter at the same position in y. If there is a third argument, it\nmust be "
        ++ "a string, whose characters will be mapped to None in the result.") },
    { name := "__sizeof__", form := .call, signature := some "($self, /)"
      doc := some "Return the size of the string in memory, in bytes." },
    { name := "__getnewargs__", form := .call },
    { name := "__doc__", form := .plain, doc := some textDoc }]

/-- The description of all values. -/
def objectDoc : String :=
  "The base class of the class hierarchy.\n\nWhen called, it accepts no arguments and returns "
    ++ "a new featureless\ninstance that has no instance attributes and cannot be given any.\n"

/-- The members that are defined for all values. -/
def objectMembers : List Member :=
  [maker] ++
  operators [
    "__repr__", "__hash__", "__str__", "__getattribute__", "__setattr__", "__delattr__", "__lt__",
    "__le__", "__eq__", "__ne__", "__gt__", "__ge__", "__init__"] ++
  [
    { name := "__reduce_ex__", form := .call, signature := some "($self, protocol, /)"
      doc := some "Helper for pickle." },
    { name := "__reduce__", form := .call, signature := some "($self, /)"
      doc := some "Helper for pickle." },
    { name := "__getstate__", form := .call, signature := some "($self, /)"
      doc := some "Helper for pickle." },
    { name := "__subclasshook__", form := .kindCall
      doc := some ("Abstract classes can override this to customize issubclass().\n\nThis is "
        ++ "invoked early on by abc.ABCMeta.__subclasscheck__().\nIt should return True, False "
        ++ "or NotImplemented.  If it returns\nNotImplemented, the normal algorithm is used.  "
        ++ "Otherwise, it\noverrides the normal algorithm (and the outcome is cached).\n") },
    { name := "__init_subclass__", form := .kindCall
      doc := some ("This method is called when a class is subclassed.\n\nThe default "
        ++ "implementation does nothing. It may be\noverridden to extend subclasses.\n") },
    { name := "__format__", form := .call, signature := some "($self, format_spec, /)"
      doc := some "Default object formatter." },
    { name := "__sizeof__", form := .call, signature := some "($self, /)"
      doc := some "Size of object in memory, in bytes." },
    { name := "__dir__", form := .call, signature := some "($self, /)"
      doc := some "Default dir() implementation." },
    { name := "__class__", form := .attribute, doc := some "the object's class" },
    { name := "__doc__", form := .plain, doc := some objectDoc }]

/-- The description of kinds. -/
def kindDoc : String :=
  "type(object) -> the object's type\ntype(name, bases, dict, **kwds) -> a new type"

/-- The members that are defined for kinds. -/
def kindMembers : List Member :=
  [maker] ++
  operators [
    "__repr__", "__call__", "__getattribute__", "__setattr__", "__delattr__", "__init__", "__or__",
    "__ror__"] ++
  [
    { name := "mro", form := .call, signature := some "($self, /)"
      doc := some "Return a type's method resolution order." },
    { name := "__subclasses__", form := .call, signature := some "($self, /)"
      doc := some "Return a list of immediate subclasses." },
    { name := "__prepare__", form := .kindCall
      doc := some "__prepare__() -> dict\nused to create the namespace for the class statement" },
    { name := "__instancecheck__", form := .call, signature := some "($self, instance, /)"
      doc := some "Check if an object is an instance." },
    { name := "__subclasscheck__", form := .call, signature := some "($self, subclass, /)"
      doc := some "Check if a class is a subclass." },
    { name := "__dir__", form := .call, signature := some "($self, /)"
      doc := some "Specialized __dir__ implementation for types." },
    { name := "__sizeof__", form := .call, signature := some "($self, /)"
      doc := some "Return memory consumption of the type object." }] ++
  slots [
    "__basicsize__", "__itemsize__", "__flags__", "__weakrefoffset__", "__base__",
    "__dictoffset__", "__mro__"] ++
  attributes [
    "__name__", "__qualname__", "__bases__", "__module__", "__abstractmethods__", "__dict__",
    "__doc__", "__text_signature__", "__annotations__"]

/-- The description of integers. -/
def integerDoc : String :=
  "int([x]) -> integer\nint(x, base=10) -> integer\n\nConvert a number or string to an "
    ++ "integer, or return 0 if no arguments\nare given.  If x is a number, return "
    ++ "x.__int__().  For floating point\nnumbers, this truncates towards zero.\n\nIf x is not "
    ++ "a number or if base is given, then x must be a string,\nbytes, or bytearray instance "
    ++ "representing an integer literal in the\ngiven base.  The literal can be preceded by "
    ++ "'+' or '-' and be surrounded\nby whitespace.  The base defaults to 10.  Valid bases "
    ++ "are 0 and 2-36.\nBase 0 means to interpret the base from the string as an integer "
    ++ "literal.\n>>> int('0b100', base=0)\n4"

/-- The members that are defined for integers. -/
def integerMembers : List Member :=
  [maker] ++
  operators [
    "__repr__", "__hash__", "__getattribute__", "__lt__", "__le__", "__eq__", "__ne__", "__gt__",
    "__ge__", "__add__", "__radd__", "__sub__", "__rsub__", "__mul__", "__rmul__", "__mod__",
    "__rmod__", "__divmod__", "__rdivmod__", "__pow__", "__rpow__", "__neg__", "__pos__",
    "__abs__", "__bool__", "__invert__", "__lshift__", "__rlshift__", "__rshift__", "__rrshift__",
    "__and__", "__rand__", "__xor__", "__rxor__", "__or__", "__ror__", "__int__", "__float__",
    "__floordiv__", "__rfloordiv__", "__truediv__", "__rtruediv__", "__index__"] ++
  [
    { name := "conjugate", form := .call
      doc := some "Returns self, the complex conjugate of any int." },
    { name := "bit_length", form := .call, signature := some "($self, /)"
      doc := some ("Number of bits necessary to represent self in binary.\n\n>>> "
        ++ "bin(37)\n'0b100101'\n>>> (37).bit_length()\n6") },
    { name := "bit_count", form := .call, signature := some "($self, /)"
      doc := some ("Number of ones in the binary representation of the absolute value of "
        ++ "self.\n\nAlso known as the population count.\n\n>>> bin(13)\n'0b1101'\n>>> "
        ++ "(13).bit_count()\n3") },
    { name := "to_bytes", form := .call
      signature := some "($self, /, length=1, byteorder='big', *, signed=False)"
      doc := some ("Return an array of bytes representing an integer.\n\n  length\n    "
        ++ "Length of bytes object to use.  An OverflowError is raised if the\n    integer is "
        ++ "not representable with the given number of bytes.  Default\n    is length 1.\n  "
        ++ "byteorder\n    The byte order used to represent the integer.  If byteorder is "
        ++ "'big',\n    the most significant byte is at the beginning of the byte array.  If\n   "
        ++ " byteorder is 'little', the most significant byte is at the end of the\n    byte "
        ++ "array.  To request the native byte order of the host system, use\n    "
        ++ "`sys.byteorder' as the byte order value.  Default is to use 'big'.\n  signed\n    "
        ++ "Determines whether two's complement is used to represent the integer.\n    If signed "
        ++ "is False and a negative integer is given, an OverflowError\n    is raised.") },
    { name := "from_bytes", form := .kindCall
      signature := some "($type, /, bytes, byteorder='big', *, signed=False)"
      doc := some ("Return the integer represented by the given array of bytes.\n\n  bytes\n "
        ++ "   Holds the array of bytes to convert.  The argument must either\n    support the "
        ++ "buffer protocol or be an iterable object producing bytes.\n    Bytes and bytearray "
        ++ "are examples of built-in objects that support the\n    buffer protocol.\n  "
        ++ "byteorder\n    The byte order used to represent the integer.  If byteorder is "
        ++ "'big',\n    the most significant byte is at the beginning of the byte array.  If\n   "
        ++ " byteorder is 'little', the most significant byte is at the end of the\n    byte "
        ++ "array.  To request the native byte order of the host system, use\n    "
        ++ "`sys.byteorder' as the byte order value.  Default is to use 'big'.\n  signed\n    "
        ++ "Indicates whether two's complement is used to represent the integer.") },
    { name := "as_integer_ratio", form := .call, signature := some "($self, /)"
      doc := some ("Return integer ratio.\n\nReturn a pair of integers, whose ratio is "
        ++ "exactly equal to the original int\nand with a positive denominator.\n\n>>> "
        ++ "(10).as_integer_ratio()\n(10, 1)\n>>> (-10).as_integer_ratio()\n(-10, 1)\n>>> "
        ++ "(0).as_integer_ratio()\n(0, 1)") },
    { name := "__trunc__", form := .call, doc := some "Truncating an Integral returns itself." },
    { name := "__floor__", form := .call, doc := some "Flooring an Integral returns itself." },
    { name := "__ceil__", form := .call, doc := some "Ceiling of an Integral returns itself." },
    { name := "__round__", form := .call
      signature := some "($self, ndigits=<unrepresentable>, /)"
      doc := some ("Rounding an Integral returns itself.\n\nRounding with an ndigits "
        ++ "argument also returns an integer.") },
    { name := "__getnewargs__", form := .call, signature := some "($self, /)" },
    { name := "__format__", form := .call, signature := some "($self, format_spec, /)" },
    { name := "__sizeof__", form := .call, signature := some "($self, /)"
      doc := some "Returns size in memory, in bytes." },
    { name := "real", form := .attribute, doc := some "the real part of a complex number" },
    { name := "imag", form := .attribute, doc := some "the imaginary part of a complex number" },
    { name := "numerator", form := .attribute
      doc := some "the numerator of a rational number in lowest terms" },
    { name := "denominator", form := .attribute
      doc := some "the denominator of a rational number in lowest terms" },
    { name := "__doc__", form := .plain, doc := some integerDoc }]

/-- The description of booleans. -/
def booleanDoc : String :=
  "bool(x) -> bool\n\nReturns True when the argument x is true, False otherwise.\nThe "
    ++ "builtins True and False are the only two instances of the class bool.\nThe class bool "
    ++ "is a subclass of the class int, and cannot be subclassed."

/-- The members that are defined for booleans. -/
def booleanMembers : List Member :=
  [maker] ++
  operators ["__repr__", "__and__", "__rand__", "__xor__", "__rxor__", "__or__", "__ror__"] ++
  [{ name := "__doc__", form := .plain, doc := some booleanDoc }]

/-- The description of tuples. -/
def tupleDoc : String :=
  "Built-in immutable sequence.\n\nIf no argument is given, the constructor returns an empty "
    ++ "tuple.\nIf iterable is specified the tuple is initialized from iterable's items.\n\nIf "
    ++ "the argument is a tuple, the return value is the same object."

/-- The members that are defined for tuples. -/
def tupleMembers : List Member :=
  [maker] ++
  operators [
    "__repr__", "__hash__", "__getattribute__", "__lt__", "__le__", "__eq__", "__ne__", "__gt__",
    "__ge__", "__iter__", "__len__", "__getitem__", "__add__", "__mul__", "__rmul__",
    "__contains__"] ++
  [
    { name := "__getnewargs__", form := .call, signature := some "($self, /)" },
    { name := "index", form := .call
      signature := some "($self, value, start=0, stop=sys.maxsize, /)"
      doc := some ("Return first index of value.\n\nRaises ValueError if the value is not "
        ++ "present.") },
    { name := "count", form := .call, signature := some "($self, value, /)"
      doc := some "Return number of occurrences of value." },
    { name := "__class_getitem__", form := .kindCall, doc := some "See PEP 585" },
    { name := "__doc__", form := .plain, doc := some tupleDoc }]

/-- The members that are defined for the missing value. -/
def nothingMembers : List Member :=
  [maker] ++
  operators ["__repr__", "__bool__"] ++
  [{ name := "__doc__", form := .plain }]

/-- The members that are defined for operations of a value that stand behind calls. -/
def builtinMembers : List Member :=
  operators [
    "__repr__", "__hash__", "__call__", "__getattribute__", "__lt__", "__le__", "__eq__", "__ne__",
    "__gt__", "__ge__"] ++
  [{ name := "__reduce__", form := .call }] ++
  slots ["__module__"] ++
  attributes ["__doc__", "__name__", "__qualname__", "__self__", "__text_signature__"]

/-- The members that are defined for operations of a value that stand behind operators. -/
def wrapperMembers : List Member :=
  operators [
    "__repr__", "__hash__", "__call__", "__getattribute__", "__lt__", "__le__", "__eq__", "__ne__",
    "__gt__", "__ge__"] ++
  [{ name := "__reduce__", form := .call }] ++
  slots ["__self__"] ++
  attributes ["__objclass__", "__name__", "__qualname__", "__doc__", "__text_signature__"]

/-- The members that are defined for operations of a kind that stand behind calls. -/
def methodDescriptorMembers : List Member :=
  operators ["__repr__", "__call__", "__getattribute__", "__get__"] ++
  [{ name := "__reduce__", form := .call }] ++
  slots ["__objclass__", "__name__"] ++
  attributes ["__doc__", "__qualname__", "__text_signature__"]

/-- The members that are defined for operations of a kind that stand behind operators. -/
def wrapperDescriptorMembers : List Member :=
  operators ["__repr__", "__call__", "__getattribute__", "__get__"] ++
  [{ name := "__reduce__", form := .call }] ++
  slots ["__objclass__", "__name__"] ++
  attributes ["__doc__", "__qualname__", "__text_signature__"]

/-- The members that are defined for operations on a kind itself. -/
def kindMethodDescriptorMembers : List Member :=
  operators ["__repr__", "__call__", "__getattribute__", "__get__"] ++
  slots ["__objclass__", "__name__"] ++
  attributes ["__doc__", "__qualname__", "__text_signature__"]

/-- The members that are defined for values that are found out. -/
def attributeDescriptorMembers : List Member :=
  operators ["__repr__", "__getattribute__", "__get__", "__set__", "__delete__"] ++
  slots ["__objclass__", "__name__"] ++
  attributes ["__doc__", "__qualname__"]

/-- The members that are defined for values that are kept. -/
def slotDescriptorMembers : List Member :=
  operators ["__repr__", "__getattribute__", "__get__", "__set__", "__delete__"] ++
  [{ name := "__reduce__", form := .call }] ++
  slots ["__objclass__", "__name__"] ++
  attributes ["__doc__", "__qualname__"]

/-- The members that are defined for the members of a kind. -/
def membersMembers : List Member :=
  [maker] ++
  operators [
    "__repr__", "__str__", "__getattribute__", "__lt__", "__le__", "__eq__", "__ne__", "__gt__",
    "__ge__", "__iter__", "__or__", "__ror__", "__ior__", "__len__", "__getitem__",
    "__contains__"] ++
  [
    { name := "get", form := .call
      doc := some "D.get(k[,d]) -> D[k] if k in D, else d.  d defaults to None." },
    { name := "keys", form := .call
      doc := some "D.keys() -> a set-like object providing a view on D's keys" },
    { name := "values", form := .call
      doc := some "D.values() -> an object providing a view on D's values" },
    { name := "items", form := .call
      doc := some "D.items() -> a set-like object providing a view on D's items" },
    { name := "copy", form := .call, doc := some "D.copy() -> a shallow copy of D" },
    { name := "__class_getitem__", form := .kindCall, doc := some "See PEP 585" },
    { name := "__reversed__", form := .call, doc := some "D.__reversed__() -> reverse iterator" },
    { name := "__doc__", form := .plain },
    { name := "__hash__", form := .plain }]

/-- The description of kinds with arguments. -/
def genericDoc : String :=
  "Represent a PEP 585 generic type\n\nE.g. for t = list[int], t.__origin__ is list and "
    ++ "t.__args__ is (int,)."

/-- The members that are defined for kinds with arguments. -/
def genericMembers : List Member :=
  [maker] ++
  operators [
    "__repr__", "__hash__", "__call__", "__getattribute__", "__lt__", "__le__", "__eq__", "__ne__",
    "__gt__", "__ge__", "__iter__", "__or__", "__ror__", "__getitem__"] ++
  [
    { name := "__mro_entries__", form := .call },
    { name := "__instancecheck__", form := .call },
    { name := "__subclasscheck__", form := .call },
    { name := "__reduce__", form := .call },
    { name := "__dir__", form := .call }] ++
  slots ["__origin__", "__args__", "__unpacked__"] ++
  [
    { name := "__parameters__", form := .attribute
      doc := some "Type variables in the GenericAlias." }] ++
  attributes ["__typing_unpacked_tuple_args__"] ++
  [{ name := "__doc__", form := .plain, doc := some genericDoc }]

/-- The description of operations of a kind that concern no value. -/
def fixedOperationDoc : String :=
  "staticmethod(function) -> method\n\nConvert a function to be a static method.\n\nA static "
    ++ "method does not receive an implicit first argument.\nTo declare a static method, use "
    ++ "this idiom:\n\n     class C:\n         @staticmethod\n         def f(arg1, arg2, "
    ++ "argN):\n             ...\n\nIt can be called either on the class (e.g. C.f()) or on an "
    ++ "instance\n(e.g. C().f()). Both the class and the instance are ignored, and\nneither is "
    ++ "passed implicitly as the first argument to the method.\n\nStatic methods in Python are "
    ++ "similar to those found in Java or C++.\nFor a more advanced concept, see the "
    ++ "classmethod builtin."

/-- The members that are defined for operations of a kind that concern no value. -/
def fixedOperationMembers : List Member :=
  [maker] ++
  operators ["__repr__", "__call__", "__get__", "__init__"] ++
  slots ["__func__", "__wrapped__"] ++
  attributes ["__isabstractmethod__", "__dict__"] ++
  [{ name := "__doc__", form := .plain, doc := some fixedOperationDoc }]

/-- The kinds of values. -/
def kinds : List Kind := [
  { name := "str", members := textMembers
    size := 80, flags := 273159424, doc := some textDoc },
  { name := "object", above := [], members := objectMembers
    size := 16, flags := 529664, signature := some "()", doc := some objectDoc },
  { name := "type", members := kindMembers
    size := 904, itemSize := 40, flags := 2148031744, dictOffset := 264, weakOffset := 368
    doc := some kindDoc },
  { name := "int", members := integerMembers
    size := 24, itemSize := 4, flags := 21501184, doc := some integerDoc },
  { name := "bool", above := ["int", "object"], members := booleanMembers
    size := 32, itemSize := 4, flags := 21500160, doc := some booleanDoc },
  { name := "tuple", members := tupleMembers
    size := 24, itemSize := 8, flags := 71849248, signature := some "(iterable=(), /)"
    doc := some tupleDoc },
  { name := "NoneType", members := nothingMembers
    size := 16, flags := 528640 },
  { name := "builtin_function_or_method", members := builtinMembers
    size := 56, flags := 547200, weakOffset := 40 },
  { name := "method-wrapper", members := wrapperMembers
    size := 32, flags := 545152 },
  { name := "method_descriptor", members := methodDescriptorMembers
    size := 56, flags := 678272 },
  { name := "wrapper_descriptor", members := wrapperDescriptorMembers
    size := 56, flags := 676224 },
  { name := "classmethod_descriptor", members := kindMethodDescriptorMembers
    size := 56, flags := 545152 },
  { name := "getset_descriptor", members := attributeDescriptorMembers
    size := 48, flags := 545152 },
  { name := "member_descriptor", members := slotDescriptorMembers
    size := 48, flags := 545152 },
  { name := "mappingproxy", members := membersMembers
    size := 24, flags := 545088 },
  { name := "GenericAlias", home := "types", members := genericMembers
    size := 64, flags := 548096, weakOffset := 40, doc := some genericDoc },
  { name := "staticmethod", members := fixedOperationMembers
    size := 32, flags := 546048, dictOffset := 24, doc := some fixedOperationDoc }]

end BindingAudit.Template
