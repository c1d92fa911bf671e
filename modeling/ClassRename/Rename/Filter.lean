import ClassRename.Text.Quoted

namespace ClassRename

inductive ClassFilter where
  | all
  | startingWith (text : String)
  | endingWith (text : String)
  | custom (selects : String → Bool)

namespace ClassFilter

def selects : ClassFilter → String → Bool
  | .all, _ => true
  | .startingWith text, name => text.toList.isPrefixOf name.toList
  | .endingWith text, name => text.toList.isSuffixOf name.toList
  | .custom selects, name => selects name

def shown : ClassFilter → String
  | .all => "All"
  | .startingWith text => "Prefix(" ++ Text.quoted text ++ ")"
  | .endingWith text => "Suffix(" ++ Text.quoted text ++ ")"
  | .custom _ => "Custom(..)"

end ClassFilter
end ClassRename
