import ServiceManifest.Text.Ranges

/-!
# Members of what is loaded

Names lead from a module to its classes and from a class to those nested in it. Besides, modules,
classes and every other object have the members of their type: a value has what its type declares,
and a class also has what its own type, `type`, declares. Of an object that is no class of the table
only its type counts, and the owner to which it is bound.
-/

namespace ServiceManifest.Loading

/-- A class with the classes nested in it. -/
inductive ClassTree
  | node (nested : List (String × ClassTree))
  deriving Inhabited

/-- The classes nested in a class. -/
def ClassTree.nested : ClassTree → List (String × ClassTree)
  | .node nested => nested

/-- What names can lead to: a module or a class of the table, a type that comes with the language, a
value of such a type, and one that is bound to an owner and declared by a type. -/
inductive Object
  | moduleObject (name : String) (classes : List (String × ClassTree))
  | loadedClass (module : String) (names : List String) (nested : List (String × ClassTree))
  | typeObject (name : String)
  | value (type : String)
  | bound (type : String) (owner : Object) (declaring : String)
  deriving Inhabited

/-- How a type declares a member. Operators and methods are bound to a value, those of a class to
the class of the value, and functions to the type that declares them. A constant is the same for all
values, a computed or stored member belongs to each. What is `shown` belongs to the type itself. -/
inductive MemberKind
  | operator
  | method
  | classMethod
  | function
  | constant (type : String)
  | computed (type : String)
  | stored (type : String)
  | shown (type : String)
  deriving DecidableEq, Repr

/-- The members that types declare. Each group is headed by the kind of its members, with the type
of their values behind a hyphen. -/
def declarations : List (String × String) :=
  [("object",
    "function: __new__ operator: __repr__ __hash__ __str__ __getattribute__ __setattr__
      __delattr__ __lt__ __le__ __eq__ __ne__ __gt__ __ge__ __init__ method: __reduce_ex__
      __reduce__ __getstate__ __format__ __sizeof__ __dir__ class-method: __subclasshook__
      __init_subclass__ computed-class: __class__ constant-str: __doc__ shown-str: __doc__
      __text_signature__"),
  ("type",
    "function: __new__ operator: __repr__ __call__ __getattribute__ __setattr__ __delattr__
      __init__ __or__ __ror__ method: mro __subclasses__ __instancecheck__ __subclasscheck__
      __dir__ __sizeof__ class-method: __prepare__ stored-int: __basicsize__ __itemsize__
      __flags__ __weakrefoffset__ __dictoffset__ stored-base: __base__ stored-tuple: __mro__
      computed-str: __name__ __qualname__ __module__ computed-tuple: __bases__ computed-none:
      __abstractmethods__ computed-mappingproxy: __dict__ computed-NoneType: __doc__
      __text_signature__ computed-dict: __annotations__ shown-str: __doc__ shown-NoneType:
      __text_signature__"),
  ("module",
    "function: __new__ operator: __repr__ __getattribute__ __setattr__ __delattr__ __init__
      method: __dir__ stored-dict: __dict__ computed-dict: __annotations__ constant-str: __doc__
      shown-str: __doc__ __text_signature__"),
  ("str",
    "function: __new__ maketrans operator: __repr__ __hash__ __str__ __getattribute__ __lt__
      __le__ __eq__ __ne__ __gt__ __ge__ __iter__ __mod__ __rmod__ __len__ __getitem__ __add__
      __mul__ __rmul__ __contains__ method: encode replace split rsplit join capitalize casefold
      title center count expandtabs find partition index ljust lower lstrip rfind rindex rjust
      rstrip rpartition splitlines strip swapcase translate upper startswith endswith removeprefix
      removesuffix isascii islower isupper istitle isspace isdecimal isdigit isnumeric isalpha
      isalnum isidentifier isprintable zfill format format_map __format__ __sizeof__
      __getnewargs__ constant-str: __doc__ shown-str: __doc__ shown-NoneType: __text_signature__"),
  ("int",
    "function: __new__ operator: __repr__ __hash__ __getattribute__ __lt__ __le__ __eq__ __ne__
      __gt__ __ge__ __add__ __radd__ __sub__ __rsub__ __mul__ __rmul__ __mod__ __rmod__ __divmod__
      __rdivmod__ __pow__ __rpow__ __neg__ __pos__ __abs__ __bool__ __invert__ __lshift__
      __rlshift__ __rshift__ __rrshift__ __and__ __rand__ __xor__ __rxor__ __or__ __ror__ __int__
      __float__ __floordiv__ __rfloordiv__ __truediv__ __rtruediv__ __index__ method: conjugate
      bit_length bit_count to_bytes as_integer_ratio __trunc__ __floor__ __ceil__ __round__
      __getnewargs__ __format__ __sizeof__ class-method: from_bytes computed-int: real imag
      numerator denominator constant-str: __doc__ shown-str: __doc__ shown-NoneType:
      __text_signature__"),
  ("bool",
    "function: __new__ operator: __repr__ __and__ __rand__ __xor__ __rxor__ __or__ __ror__
      constant-str: __doc__ shown-str: __doc__ shown-NoneType: __text_signature__"),
  ("NoneType",
    "function: __new__ operator: __repr__ __bool__ constant-NoneType: __doc__ shown-NoneType:
      __doc__ __text_signature__"),
  ("tuple",
    "function: __new__ operator: __repr__ __hash__ __getattribute__ __lt__ __le__ __eq__ __ne__
      __gt__ __ge__ __iter__ __len__ __getitem__ __add__ __mul__ __rmul__ __contains__ method:
      __getnewargs__ index count class-method: __class_getitem__ constant-str: __doc__ shown-str:
      __doc__ __text_signature__"),
  ("dict",
    "function: __new__ operator: __repr__ __getattribute__ __lt__ __le__ __eq__ __ne__ __gt__
      __ge__ __iter__ __init__ __or__ __ror__ __ior__ __len__ __setitem__ __delitem__
      constant-NoneType: __hash__ method: __getitem__ __contains__ __sizeof__ get setdefault pop
      popitem keys items values update clear copy __reversed__ class-method: fromkeys
      __class_getitem__ constant-str: __doc__ shown-str: __doc__ shown-NoneType:
      __text_signature__"),
  ("mappingproxy",
    "function: __new__ operator: __repr__ __str__ __getattribute__ __lt__ __le__ __eq__ __ne__
      __gt__ __ge__ __iter__ __or__ __ror__ __ior__ __len__ __getitem__ __contains__ method: get
      keys values items copy __reversed__ class-method: __class_getitem__ constant-NoneType:
      __doc__ __hash__ shown-NoneType: __doc__ __text_signature__"),
  ("builtin_function_or_method",
    "operator: __repr__ __hash__ __call__ __getattribute__ __lt__ __le__ __eq__ __ne__ __gt__
      __ge__ method: __reduce__ stored-NoneType: __module__ computed-str: __doc__ __name__
      __qualname__ __text_signature__ computed-owner: __self__ shown-getset_descriptor: __doc__
      shown-NoneType: __text_signature__"),
  ("method-wrapper",
    "operator: __repr__ __hash__ __call__ __getattribute__ __lt__ __le__ __eq__ __ne__ __gt__
      __ge__ method: __reduce__ stored-owner: __self__ computed-declaring: __objclass__ computed-str:
      __name__ __qualname__ __doc__ __text_signature__ shown-getset_descriptor: __doc__
      shown-NoneType: __text_signature__"),
  ("wrapper_descriptor",
    "operator: __repr__ __call__ __getattribute__ __get__ method: __reduce__ stored-owner:
      __objclass__ stored-str: __name__ computed-str: __doc__ __qualname__ __text_signature__
      shown-getset_descriptor: __doc__ shown-NoneType: __text_signature__"),
  ("method_descriptor",
    "operator: __repr__ __call__ __getattribute__ __get__ method: __reduce__ stored-owner:
      __objclass__ stored-str: __name__ computed-str: __doc__ __qualname__ __text_signature__
      shown-getset_descriptor: __doc__ shown-NoneType: __text_signature__"),
  ("getset_descriptor",
    "operator: __repr__ __getattribute__ __get__ __set__ __delete__ stored-owner: __objclass__
      stored-str: __name__ computed-NoneType: __doc__ computed-str: __qualname__
      shown-getset_descriptor: __doc__ shown-NoneType: __text_signature__"),
  ("member_descriptor",
    "operator: __repr__ __getattribute__ __get__ __set__ __delete__ method: __reduce__
      stored-owner: __objclass__ stored-str: __name__ computed-NoneType: __doc__ computed-str:
      __qualname__ shown-getset_descriptor: __doc__ shown-NoneType: __text_signature__"),
  ("classmethod_descriptor",
    "operator: __repr__ __call__ __getattribute__ __get__ stored-owner: __objclass__ stored-str:
      __name__ computed-str: __doc__ __qualname__ __text_signature__ shown-getset_descriptor:
      __doc__ shown-NoneType: __text_signature__")]

/-- The kind that a heading announces. -/
def MemberKind.ofHeading (heading : String) : MemberKind :=
  match heading.splitOn "-" with
  | ["operator"] => .operator
  | ["method"] => .method
  | ["class", "method"] => .classMethod
  | ["function"] => .function
  | first :: rest =>
    let type := "-".intercalate rest
    match first with
    | "constant" => .constant type
    | "computed" => .computed type
    | "stored" => .stored type
    | _ => .shown type
  | [] => .method

/-- The members among words, each with the heading before it. -/
def membersFrom (kind : MemberKind) : List String → List (String × MemberKind)
  | [] => []
  | word :: rest =>
    if word.toList.getLast? = some ':' then
      membersFrom (.ofHeading (String.ofList word.toList.dropLast)) rest
    else (word, kind) :: membersFrom kind rest

/-- The value of a key in a list of pairs. -/
def named? {α : Type} (key : String) (entries : List (String × α)) : Option α :=
  (entries.find? fun entry => entry.1 = key).map (·.2)

/-- The members that a type declares itself. -/
def declared (type : String) : List (String × MemberKind) :=
  let listed := (named? type declarations).getD ""
  membersFrom .method ((Text.words listed.toList).map String.ofList)

/-- A type and those from which it inherits, the nearest first. -/
def lineage (type : String) : List String :=
  if type = "object" then ["object"]
  else if type = "bool" then ["bool", "int", "object"]
  else [type, "object"]

/-- The nearest declaration of a member, and the type that makes it. -/
def inherited? (type member : String) : Option (String × MemberKind) :=
  (lineage type).findSome? fun owner =>
    ((declared owner).find? fun entry =>
      entry.1 = member && match entry.2 with
        | .shown _ => false
        | _ => true).map fun entry => (owner, entry.2)

/-- What a type shows as a member of itself. -/
def shown? (type member : String) : Option String :=
  (declared type).findSome? fun entry =>
    match entry.2 with
    | .shown shown => if entry.1 = member then some shown else none
    | _ => none

/-- The characters at the front whose octets fit a limit. Of a character that is cut in two, a mark
is left. -/
def frontOctets (limit : Nat) : List Char → List Char
  | [] => []
  | c :: rest =>
    if c.utf8Size ≤ limit then c :: frontOctets (limit - c.utf8Size) rest
    else if limit = 0 then []
    else ['\uFFFD']

/-- The beginning of a text, as many octets as a limit allows. -/
def shortened (limit : Nat) (text : String) : String :=
  String.ofList (frontOctets limit text.toList)

/-- Why an object has no such member. -/
inductive MissingMember
  | ofModule (module member : String)
  | ofClass (owner member : String)
  | ofValue (type member : String)
  | abstract
  deriving DecidableEq, Repr

/-- The wording for a missing member. Of the name of a class only the beginning is written. -/
def MissingMember.message : MissingMember → String
  | .ofModule module member =>
    "module \x27" ++ module ++ "\x27 has no attribute \x27" ++ member ++ "\x27"
  | .ofClass owner member =>
    "type object \x27" ++ shortened 50 owner ++ "\x27 has no attribute \x27" ++ member ++ "\x27"
  | .ofValue type member =>
    "\x27" ++ type ++ "\x27 object has no attribute \x27" ++ member ++ "\x27"
  | .abstract => "__abstractmethods__"

namespace Object

/-- The name of the type of an object. -/
def typeName : Object → String
  | .moduleObject _ _ => "module"
  | .loadedClass _ _ _ => "type"
  | .typeObject _ => "type"
  | .value type => type
  | .bound type _ _ => type

/-- The owner to which an object is bound. -/
def owner : Object → Object
  | .bound _ owner _ => owner
  | object => object

/-- The type that declares what is bound to an owner. -/
def declaring : Object → String
  | .bound _ _ declaring => declaring
  | object => object.typeName

/-- The value of a computed or stored member. -/
def valueOf (object : Object) (result : String) : Object :=
  match result, object with
  | "owner", object => object.owner
  | "declaring", object => .typeObject object.declaring
  | "class", object => .typeObject object.typeName
  | "base", .typeObject "object" => .value "NoneType"
  | "base", .typeObject "bool" => .typeObject "int"
  | "base", _ => .typeObject "object"
  | result, _ => .value result

/-- A member of an object as a declaration of its type makes it. -/
def instanceMember (object : Object) (declaring : String) : MemberKind → Object
  | .operator => .bound "method-wrapper" object declaring
  | .method => .bound "builtin_function_or_method" object declaring
  | .classMethod => .bound "builtin_function_or_method" (.typeObject object.typeName) declaring
  | .function => .bound "builtin_function_or_method" (.typeObject declaring) declaring
  | .constant type => .value type
  | .computed result | .stored result | .shown result => object.valueOf result

/-- A member of a class as a declaration for its instances makes it. -/
def classMember (object : Object) (declaring : String) : MemberKind → Object
  | .operator => .bound "wrapper_descriptor" (.typeObject declaring) declaring
  | .method => .bound "method_descriptor" (.typeObject declaring) declaring
  | .classMethod => .bound "builtin_function_or_method" object declaring
  | .function => .bound "builtin_function_or_method" (.typeObject declaring) declaring
  | .constant type | .shown type => .value type
  | .computed _ => .bound "getset_descriptor" (.typeObject declaring) declaring
  | .stored _ => .bound "member_descriptor" (.typeObject declaring) declaring

/-- Whether a declaration comes before the members of the object itself. -/
def comesFirst : MemberKind → Bool
  | .computed _ | .stored _ => true
  | _ => false

/-- The members that every module has. -/
def moduleMembers : List (String × String) :=
  [("__name__", "str"), ("__doc__", "NoneType"), ("__package__", "NoneType"),
    ("__loader__", "NoneType"), ("__spec__", "NoneType")]

/-- A member of a class: what the class of the class computes, then what the class or one from which
it inherits declares, then what is left of the class of the class. `name` is the name of the class,
`base` the nearest type of the language, `own` finds what the class declares and `noted` what it
shows of itself. -/
def memberOfClass (object : Object) (name base : String) (own : Option Object)
    (noted : Option String) (member : String) : Except MissingMember Object :=
  let meta? := inherited? "type" member
  let computed := meta?.filter (comesFirst ·.2)
  if member = "__abstractmethods__" then .error .abstract
  else
    match noted, own, computed, inherited? base member, meta? with
    | some type, _, _, _, _ => .ok (.value type)
    | none, some found, _, _, _ => .ok found
    | none, none, some (declaring, kind), _, _ =>
      if member = "__annotations__" && name = base then .error (.ofClass name member)
      else .ok (object.instanceMember declaring kind)
    | none, none, none, some (declaring, kind), _ => .ok (object.classMember declaring kind)
    | none, none, none, none, some (declaring, kind) => .ok (object.instanceMember declaring kind)
    | none, none, none, none, none => .error (.ofClass name member)

/-- A member of an object. -/
def member (object : Object) (name : String) : Except MissingMember Object :=
  match object with
  | .moduleObject module classes =>
    let declaration := inherited? "module" name
    match named? name classes, declaration.filter (comesFirst ·.2), named? name moduleMembers,
        declaration with
    | some found, _, _, _ => .ok (.loadedClass module [name] found.nested)
    | none, some (declaring, kind), _, _ => .ok (object.instanceMember declaring kind)
    | none, none, some type, _ => .ok (.value type)
    | none, none, none, some (declaring, kind) => .ok (object.instanceMember declaring kind)
    | none, none, none, none => .error (.ofModule module name)
  | .loadedClass module names nested =>
    let own := (named? name nested).map fun found =>
      Object.loadedClass module (names ++ [name]) found.nested
    let own := own.or
      (if name = "__weakref__" then some (.bound "getset_descriptor" object "object") else none)
    object.memberOfClass (names.getLastD "") "object" own none name
  | .typeObject type => object.memberOfClass type type none (shown? type name) name
  | .value type | .bound type _ _ =>
    match inherited? type name with
    | some (declaring, kind) => .ok (object.instanceMember declaring kind)
    | none => .error (.ofValue type name)

end Object

end ServiceManifest.Loading
