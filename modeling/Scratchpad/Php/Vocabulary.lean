/-!
# The vocabulary of PHP

The reserved words and the named constants that are coloured. Both lists are written in lower case,
the constants in upper case too, and a word in another spelling is an ordinary name.
-/

namespace Scratchpad.Php

/-- The reserved words. -/
def keywords : List (List Char) :=
  ["abstract", "and", "array", "as", "break", "callable", "case", "catch", "class", "clone",
    "const", "continue", "declare", "default", "do", "echo", "else", "elseif", "empty",
    "enddeclare", "endfor", "endforeach", "endif", "endswitch", "endwhile", "eval", "exit",
    "extends", "final", "finally", "fn", "for", "foreach", "function", "global", "goto", "if",
    "implements", "include", "include_once", "instanceof", "insteadof", "interface", "isset",
    "list", "match", "namespace", "new", "or", "print", "private", "protected", "public",
    "readonly", "require", "require_once", "return", "static", "switch", "throw", "trait", "try",
    "unset", "use", "var", "while", "xor", "yield"].map String.toList

/-- The named constants. -/
def constants : List (List Char) :=
  ["true", "false", "null", "TRUE", "FALSE", "NULL"].map String.toList

end Scratchpad.Php
