import ApiDocs.Live.Attribute

/-! How objects are written, and how they are shown inside others. -/

namespace ApiDocs.Live.World

/-- The name of a class with that of its module, unless all modules have the class. -/
def fullPath (world : World) (id : ClassId) : Text :=
  match world.homeOf id with
  | .text home => if home = "builtins".toList then world.pathOf id else home ++ "." ++ world.pathOf id
  | _ => world.pathOf id

/-- A class as it is written. -/
def classShown (world : World) (id : ClassId) : Text := "<class '" ++ world.fullPath id ++ "'>"

/-- A feature as it is written. -/
def featureShown (world : World) (kind : Feature) (name : Text) (owner : ClassId) : Text :=
  let word : Text := match kind with
    | .operation => "slot wrapper"
    | .method | .classwide => "method"
    | .computed => "attribute"
    | .stored => "member"
  "<" ++ word ++ " '" ++ name ++ "' of '" ++ world.pathOf owner ++ "' objects>"

/-- The path that an object says it has. -/
def statedPath (world : World) (object : Object) : Text :=
  match (world.attribute? object "__qualname__").or (world.attribute? object "__name__") with
  | some (.text path) => path
  | _ => "?"

/-- An object as it is shown inside others. Where it is stored is left out. -/
def shown (world : World) : Object → Text
  | .home name => "<module '" ++ name ++ "'>"
  | .cls id => world.classShown id
  | .function f => "<function " ++ f.path ++ ">"
  | .method callee owner => "<bound method " ++ world.statedPath callee ++ " of " ++ world.classShown owner ++ ">"
  | .property _ => "<property object>"
  | .text s => Text.quoted s
  | .number n => Text.ofInt n
  | .flag set => if set then "True" else "False"
  | .nothing => "None"
  | .row [id] => "(" ++ world.classShown id ++ ",)"
  | .row ids => "(" ++ Text.join ", " (ids.map world.classShown) ++ ")"
  | .single item => "(" ++ world.shown item ++ ",)"
  | .emptyTable => "\x7b\x7d"
  | .content _ => "mappingproxy(\x7b\x7d)"
  | .feature kind name owner _ => world.featureShown kind name owner
  | .bound .method name _ (.home _) _ => "<built-in function " ++ name ++ ">"
  | .bound .free name _ _ _ => "<built-in method " ++ name ++ " of type object>"
  | .bound kind name _ subject _ =>
    (if kind = .operation then "<method-wrapper '" ++ name ++ "'" else "<built-in method " ++ name) ++ " of " ++
      world.fullPath (world.typeOf subject) ++ " object>"
  | .static object _ => "<staticmethod(" ++ world.shown object ++ ")>"
  | .classwide object _ => "<classmethod(" ++ world.shown object ++ ")>"
  | .alias origin (.cls id) => world.fullPath origin ++ "[" ++ world.fullPath id ++ "]"
  | .alias origin argument => world.fullPath origin ++ "[" ++ world.shown argument ++ "]"
  | .thing kind => "<" ++ world.fullPath kind ++ " object>"

/-- An object as it is written: a text as it is, all else as it is shown. -/
def written (world : World) : Object → Text
  | .text s => s
  | object => world.shown object

end ApiDocs.Live.World
