import LoxLexer.Number.Shortest
import LoxLexer.Text.Quoted

/-!
# Tokens

A token is a lexeme of the source with its kind, its line and, for strings and numbers, the value that
the lexeme denotes. Every kind has a name, by which it is printed, and a spelling: the lexeme itself
for punctuation, operators and keywords, and the name again for the kinds that have many lexemes.
-/

namespace LoxLexer

/-- The kinds of tokens. -/
inductive Kind where
  | leftParen | rightParen | leftBrace | rightBrace
  | comma | dot | minus | plus | semicolon | slash | star
  | bang | bangEqual | equal | equalEqual | greater | greaterEqual | less | lessEqual
  | identifier | string | number
  | andWord | classWord | elseWord | falseWord | forWord | funWord | ifWord | nilWord
  | orWord | printWord | returnWord | superWord | thisWord | trueWord | varWord | whileWord
  | endOfInput
  deriving DecidableEq, Repr, Inhabited

namespace Kind

/-- All kinds, in the order in which they are listed to users. -/
def all : List Kind :=
  [leftParen, rightParen, leftBrace, rightBrace, comma, dot, minus, plus, semicolon, slash, star,
   bang, bangEqual, equal, equalEqual, greater, greaterEqual, less, lessEqual,
   identifier, string, number,
   andWord, classWord, elseWord, falseWord, forWord, funWord, ifWord, nilWord,
   orWord, printWord, returnWord, superWord, thisWord, trueWord, varWord, whileWord,
   endOfInput]

/-- The name of a kind, as printed. -/
def name : Kind → String
  | leftParen => "LEFT_PAREN"
  | rightParen => "RIGHT_PAREN"
  | leftBrace => "LEFT_BRACE"
  | rightBrace => "RIGHT_BRACE"
  | comma => "COMMA"
  | dot => "DOT"
  | minus => "MINUS"
  | plus => "PLUS"
  | semicolon => "SEMICOLON"
  | slash => "SLASH"
  | star => "STAR"
  | bang => "BANG"
  | bangEqual => "BANG_EQUAL"
  | equal => "EQUAL"
  | equalEqual => "EQUAL_EQUAL"
  | greater => "GREATER"
  | greaterEqual => "GREATER_EQUAL"
  | less => "LESS"
  | lessEqual => "LESS_EQUAL"
  | identifier => "IDENTIFIER"
  | string => "STRING"
  | number => "NUMBER"
  | andWord => "AND"
  | classWord => "CLASS"
  | elseWord => "ELSE"
  | falseWord => "FALSE"
  | forWord => "FOR"
  | funWord => "FUN"
  | ifWord => "IF"
  | nilWord => "NIL"
  | orWord => "OR"
  | printWord => "PRINT"
  | returnWord => "RETURN"
  | superWord => "SUPER"
  | thisWord => "THIS"
  | trueWord => "TRUE"
  | varWord => "VAR"
  | whileWord => "WHILE"
  | endOfInput => "EOF"

/-- The lexeme of a kind that has only one, and the name of any other kind. -/
def spelling : Kind → String
  | leftParen => "("
  | rightParen => ")"
  | leftBrace => "\x7b"
  | rightBrace => "\x7d"
  | comma => ","
  | dot => "."
  | minus => "-"
  | plus => "+"
  | semicolon => ";"
  | slash => "/"
  | star => "*"
  | bang => "!"
  | bangEqual => "!="
  | equal => "="
  | equalEqual => "=="
  | greater => ">"
  | greaterEqual => ">="
  | less => "<"
  | lessEqual => "<="
  | andWord => "and"
  | classWord => "class"
  | elseWord => "else"
  | falseWord => "false"
  | forWord => "for"
  | funWord => "fun"
  | ifWord => "if"
  | nilWord => "nil"
  | orWord => "or"
  | printWord => "print"
  | returnWord => "return"
  | superWord => "super"
  | thisWord => "this"
  | trueWord => "true"
  | varWord => "var"
  | whileWord => "while"
  | kind => kind.name

/-- The kinds whose spelling is a reserved word. -/
def keywords : List Kind :=
  [andWord, classWord, elseWord, falseWord, forWord, funWord, ifWord, nilWord,
   orWord, printWord, returnWord, superWord, thisWord, trueWord, varWord, whileWord]

/-- The keyword that a word is reserved for. -/
def ofKeyword? (word : String) : Option Kind := keywords.find? fun kind => kind.spelling == word

/-- The kind of a word: a keyword if the word is reserved, an identifier otherwise. -/
def ofWord (word : String) : Kind := (ofKeyword? word).getD identifier

/-- The kind with a given name. -/
def ofName? (name : String) : Option Kind := all.find? fun kind => kind.name == name

/-- The kind with a given spelling. -/
def ofSpelling? (spelling : String) : Option Kind := all.find? fun kind => kind.spelling == spelling

/-- Why there is no kind to be found. -/
inductive LookupFault where
  /-- No kind has this name. -/
  | unknownName (name : String)
  /-- No kind has this spelling. -/
  | unknownSpelling (spelling : String)
  deriving DecidableEq, Repr

/-- The wording of a fault. -/
def LookupFault.message : LookupFault → String
  | unknownName name => Text.quoted name
  | unknownSpelling spelling => Text.quoted spelling ++ " is not a valid TokenType"

/-- The kind with a given name, or the fault that there is none. -/
def ofName (name : String) : Except LookupFault Kind :=
  match ofName? name with
  | some kind => .ok kind
  | none => .error (.unknownName name)

/-- The kind with a given spelling, or the fault that there is none. -/
def ofSpelling (spelling : String) : Except LookupFault Kind :=
  match ofSpelling? spelling with
  | some kind => .ok kind
  | none => .error (.unknownSpelling spelling)

end Kind

/-- The value that a lexeme denotes. -/
inductive Literal where
  /-- The text between the quotes of a string. -/
  | text (value : String)
  /-- The value of a number. -/
  | number (value : Binary64)
  deriving DecidableEq, Inhabited

namespace Literal

/-- Equality of values: numbers are compared as numbers, and a text never equals a number. -/
def equals : Literal → Literal → Bool
  | text a, text b => a == b
  | number a, number b => a.equals b
  | _, _ => false

/-- The printed form of a value. -/
def render : Literal → String
  | text value => value
  | number value => value.text

end Literal

/-- A lexeme of the source with its classification. -/
structure Token where
  /-- What the lexeme is. -/
  kind : Kind
  /-- The source text of the token; empty at the end of the input. -/
  lexeme : String
  /-- The value of a string or a number. -/
  literal : Option Literal
  /-- The line on which the lexeme starts, counted from one. -/
  line : Int
  deriving DecidableEq, Inhabited

namespace Token

/-- The token that marks the end of the input. -/
def endOfInput (line : Int) : Token := ⟨.endOfInput, "", none, line⟩

/-- Equality of tokens, with values compared as `Literal.equals` does. -/
def equals (a b : Token) : Bool :=
  a.kind == b.kind && a.lexeme == b.lexeme && a.line == b.line &&
    match a.literal, b.literal with
    | some x, some y => x.equals y
    | none, none => true
    | _, _ => false

/-- The printed form of a token: its name, its lexeme and its value, which is empty if it has none. -/
def render (token : Token) : String :=
  token.kind.name ++ " " ++ token.lexeme ++ " " ++ (token.literal.map Literal.render).getD ""

end Token

/-- A fault in the source, with the line on which it was noticed. -/
structure LexicalError where
  /-- The line on which the fault was noticed, counted from one. -/
  line : Int
  /-- What is wrong. -/
  message : String
  deriving DecidableEq, Repr, Inhabited

/-- The printed form of a fault. -/
def LexicalError.render (error : LexicalError) : String :=
  "[line " ++ toString error.line ++ "] Error: " ++ error.message

end LoxLexer
