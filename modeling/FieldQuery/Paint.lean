import FieldQuery.Text
set_option autoImplicit false

namespace FieldQuery

inductive Style where
  | dim | success | warning | error | keyword | value
  deriving DecidableEq, Repr

def sgr (parameters : Text) : Text := ['\x1b', '['] ++ parameters ++ ['m']

def Style.codes : Style → Text
  | .dim => sgr ['2']
  | .success => sgr ['3', '2']
  | .warning => sgr ['3', '3']
  | .error => sgr ['1'] ++ sgr ['3', '1']
  | .keyword => sgr ['1'] ++ sgr ['3', '5']
  | .value => sgr ['3', '2']

def resetCode : Text := sgr ['0']

def painted (color : Bool) (style : Style) (text : Text) : Text :=
  if color then style.codes ++ text ++ resetCode else text

end FieldQuery
