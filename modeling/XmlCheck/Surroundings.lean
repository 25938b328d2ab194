import XmlCheck.Console.Screen
import XmlCheck.File.Tree
import XmlCheck.Yaml.Reader

/-!
What a run finds around it: the files, the working directory and the environment variables, and the
libraries that read settings files and know the codes of pictures.
-/

namespace XmlCheck

structure Surroundings where
  files : FileTree := {}
  here : List Text := []
  «variables» : List (Text × Text) := []
  reader : Yaml.Reader := .usual
  pictures : Console.Pictures := .usual

def Surroundings.valueOf? (around : Surroundings) (name : Text) : Option Text :=
  around.«variables».lookup name

end XmlCheck
