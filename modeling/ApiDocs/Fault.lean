import ApiDocs.Text.Quoted

/-! What can go wrong. A fault says what was found; its wording is in `Fault.message`, and `Fault.kind` is the class
    under which reports name it. Most faults are reported by their kind alone. -/

namespace ApiDocs

/-- Why a piece of a docblock cannot be read. -/
inductive Malformed
  /-- No known form of a tag is found in a chunk. -/
  | chunk (chunk : Text)
  /-- One docblock says both that a method returns and that it yields. -/
  | returnsAndYields
  /-- A tag for a parameter does not have its name, or its type and its name. -/
  | parameterWords (key : Text)
  /-- A tag that takes a type has more than one word for it. -/
  | typeWords (key : Text)
  /-- A section that lists entries has none. -/
  | emptySection (title body : Text)
  /-- An entry has no colon. -/
  | missingColon (entry : Text)
deriving DecidableEq

namespace Malformed

/-- What is said about a piece that cannot be read. -/
def message : Malformed → Text
  | .chunk text => "Error parsing meta information near \"" ++ text ++ "\"."
  | .returnsAndYields => "Error parsing meta information for \"return\"."
  | .parameterWords key => "Expected one or two arguments for a " ++ key ++ " keyword."
  | .typeWords key => "Expected one or no arguments for a " ++ key ++ " keyword."
  | .emptySection title body => "No specification for \"" ++ title ++ "\": \"" ++ body ++ "\""
  | .missingColon entry => "Expected a colon in " ++ Text.quoted entry ++ "."

end Malformed

/-- The names of the styles, as messages list them. -/
def styleNames : List Text := ["auto", "epydoc", "google", "numpydoc", "rest"]

/-- What can go wrong. -/
inductive Fault
  /-- A docblock, or a piece of one, does not follow its style. -/
  | malformed (reason : Malformed)
  /-- A tag has a header without any word. -/
  | emptyHeader
  /-- No style has this name. -/
  | unknownStyle (name : Text)
  /-- The style in the settings is no name at all. -/
  | styleNotName
  /-- A comment is not text. -/
  | commentNotText
  /-- A link template uses a field that methods do not have, or asks for something by a key that it does not have. The
      name is given as messages show it. -/
  | unknownField (shown template : Text)
  /-- A link template is not well formed. -/
  | brokenTemplate
  /-- A link template asks for a character beyond the end of a field. -/
  | indexBeyondEnd
  /-- A link template asks for a character by something that is not a number. -/
  | indexNotNumber
  /-- A link template asks for an element of something that has none. -/
  | notIndexed
  /-- A link template fits something into a slot that can only be written as it is. -/
  | slotForObject
  /-- A link template writes a number as a character that there is not. -/
  | characterTooLarge
  /-- The link template in the settings is not text. -/
  | templateNotText
  /-- A class is not in the table. -/
  | unknownClass (name : Text)
  /-- The data of a class is not a table. -/
  | classNotTable
  /-- The data of a method is not a table. -/
  | methodNotTable
  /-- A method has no name. -/
  | nameMissing
  /-- Interfaces or methods are something that has no elements. -/
  | noElements
  /-- A list or a table stands where a key is needed. -/
  | notKey
  /-- Names of different kinds cannot be sorted. -/
  | namesNotOrdered
  /-- Something that is no plain data would have to be handed on. -/
  | notData
  /-- A name does not have the form of a dotted name. -/
  | nameForm
  /-- There is no such module. -/
  | noModule
  /-- An object has no such attribute. -/
  | noAttribute
  /-- A name stands for something that is not a class. -/
  | notClass (name : Text)
  /-- The bases of a class cannot be brought in an order. -/
  | basesNotOrdered
  /-- A class defines something under a name that it cannot have it under. -/
  | reservedMember
  /-- A base of a protocol is no protocol. -/
  | baseNotProtocol
  /-- A class lists the base of classes with type parameters more than once, or in a form that cannot be read. -/
  | genericBases
  /-- What an ancestor has to be called for its subclasses cannot be called. -/
  | hookNotCallable
  /-- The abstract members of a base cannot be listed. -/
  | abstractNotListed
  /-- A class says that its objects are both sequences and tables. -/
  | shapeNotOne
  /-- A file does not follow the TOML format. -/
  | tomlForm
  /-- A number in a file has too many digits. -/
  | numberTooLong
  /-- A file is not UTF-8. -/
  | encoding
  /-- There is no such file. -/
  | fileMissing
  /-- A directory stands where a file is needed. -/
  | isDirectory
  /-- A file stands where a directory is to be made. -/
  | fileExists
  /-- A file stands where a path needs a directory. -/
  | notDirectory
  /-- A path, or a name in it, is too long. -/
  | pathTooLong
  /-- A path has a character that no file name can have. -/
  | pathForm
  /-- A file to read is said to be nowhere. -/
  | nowhere
  /-- The file to write is said to be nowhere. -/
  | outputNowhere
  /-- There is no such setting. -/
  | unknownSetting
  /-- A section of the settings is not a table. -/
  | sectionNotTable
deriving DecidableEq

namespace Fault

/-- The class under which reports name a fault. -/
def kind : Fault → Text
  | .malformed _ => "ParseError"
  | .unknownClass _ => "UnknownClassError"
  | .emptyHeader | .indexBeyondEnd => "IndexError"
  | .styleNotName | .nameMissing => "KeyError"
  | .unknownStyle _ | .unknownField _ _ | .brokenTemplate | .nameForm | .numberTooLong | .pathForm =>
    "ValueError"
  | .indexNotNumber | .methodNotTable | .noElements | .notKey | .namesNotOrdered | .notClass _ | .basesNotOrdered
  | .reservedMember | .baseNotProtocol | .genericBases | .hookNotCallable | .abstractNotListed | .shapeNotOne | .notData
  | .nowhere | .notIndexed | .slotForObject | .unknownSetting => "TypeError"
  | .commentNotText | .templateNotText | .classNotTable | .noAttribute | .sectionNotTable | .outputNowhere =>
    "AttributeError"
  | .noModule => "ModuleNotFoundError"
  | .tomlForm => "TOMLDecodeError"
  | .encoding => "UnicodeDecodeError"
  | .characterTooLarge => "OverflowError"
  | .fileMissing => "FileNotFoundError"
  | .isDirectory => "IsADirectoryError"
  | .fileExists => "FileExistsError"
  | .notDirectory => "NotADirectoryError"
  | .pathTooLong => "OSError"

/-- What is said about a fault, where there is more to say than its kind. -/
def message : Fault → Option Text
  | .malformed reason => some reason.message
  | .unknownClass name => some name
  | .unknownStyle name =>
    some ("Unknown docblock style " ++ Text.quoted name ++ "; expected one of " ++ Text.join ", " styleNames)
  | .unknownField shown template => some ("Unknown field " ++ shown ++ " in link template " ++ Text.quoted template)
  | .notClass name => some (Text.quoted name ++ " does not name a class")
  | _ => none

/-- A fault as it stands in a note. -/
def describe (fault : Fault) : Text := fault.message.getD ("<" ++ fault.kind ++ ">")

/-- Whether the fault lies in the markup of a docblock. -/
def isMalformed : Fault → Bool
  | .malformed _ => true
  | _ => false

/-- Whether the fault lies with a file: its path, its kind or its absence. -/
def isFile : Fault → Bool
  | .fileMissing | .isDirectory | .fileExists | .notDirectory | .pathTooLong => true
  | _ => false

end Fault
end ApiDocs
