import Scaffold.Files.Tree
/-!
The bundled templates of a task: its body and its header.
-/

namespace Scaffold.Template

def bodyLines : List String := [
  "/* Generated from skelgen/templates/tasks/Task.cpp.tmpl */",
  "",
  "#include \"<%= task.basename %>.hpp\"",
  "",
  "using namespace <%= task.component.name %>;",
  "",
  "<%= task.basename %>::<%= task.basename %>(std::string const& name<%= \", TaskCore::TaskState initial_state\" unless task.fixed_initial_state? %>)",
  "    : <%= task.basename %>Base(name<%= \", initial_state\" unless task.fixed_initial_state? %>)",
  "\x7b",
  "\x7d",
  "",
  "<%= task.basename %>::~<%= task.basename %>()",
  "\x7b",
  "\x7d",
  "",
  "<% each op in task.self_operations %>",
  "<%= op.signature %>",
  "\x7b",
  "    <% if op.has_return_value? %>",
  "    return <%= op.return_type.first.cxx_name %>();",
  "    <% end %>",
  "\x7d",
  "",
  "<% end %>",
  "/// The following lines are template definitions for the various state machine",
  "// hooks defined by Orocos::RTT. See <%= task.basename %>.hpp for more detailed",
  "// documentation about them.",
  "",
  "// bool <%= task.basename %>::configureHook()",
  "// \x7b",
  "//     if (! <%= task.basename %>Base::configureHook())",
  "//         return false;",
  "//     return true;",
  "// \x7d",
  "// bool <%= task.basename %>::startHook()",
  "// \x7b",
  "//     if (! <%= task.basename %>Base::startHook())",
  "//         return false;",
  "//     return true;",
  "// \x7d",
  "// void <%= task.basename %>::updateHook()",
  "// \x7b",
  "//     <%= task.basename %>Base::updateHook();",
  "// \x7d",
  "// void <%= task.basename %>::errorHook()",
  "// \x7b",
  "//     <%= task.basename %>Base::errorHook();",
  "// \x7d",
  "// void <%= task.basename %>::stopHook()",
  "// \x7b",
  "//     <%= task.basename %>Base::stopHook();",
  "// \x7d",
  "// void <%= task.basename %>::cleanupHook()",
  "// \x7b",
  "//     <%= task.basename %>Base::cleanupHook();",
  "// \x7d"]

def headerLines : List String := [
  "/* Generated from skelgen/templates/tasks/Task.hpp.tmpl */",
  "",
  "#ifndef <%= task.component.name.upper %>_<%= task.basename.upper %>_TASK_HPP",
  "#define <%= task.component.name.upper %>_<%= task.basename.upper %>_TASK_HPP",
  "",
  "#include \"<%= task.component.name %>/<%= task.basename %>Base.hpp\"",
  "",
  "namespace <%= task.component.name %> \x7b",
  "",
  "<% unless task.doc.empty %>",
  "    /*! <%= task.doc %>",
  "     */",
  "<% end %>",
  "    class <%= task.basename %> : public <%= task.basename %>Base",
  "    \x7b",
  "        friend class <%= task.basename %>Base;",
  "    protected:",
  "<% each op in task.self_operations %>",
  "<% unless op.doc.empty %>",
  "        /* <%= op.doc %>",
  "         */",
  "<% end %>",
  "        virtual <%= op.declaration %>;",
  "<% end %>",
  "",
  "    public:",
  "        /** Default constructor, registering the task under the name",
  "         * \"<%= task.name %>\" unless told otherwise.",
  "         */",
  "        <%= task.basename %>(std::string const& name = \"<%= task.name %>\"<%= \", TaskCore::TaskState initial_state = Stopped\" unless task.fixed_initial_state? %>);",
  "",
  "        ~<%= task.basename %>();",
  "",
  "        bool configureHook();",
  "        bool startHook();",
  "        void updateHook();",
  "        void errorHook();",
  "        void stopHook();",
  "        void cleanupHook();",
  "    \x7d;",
  "\x7d",
  "",
  "#endif"]

def bodyPath : String := "tasks/Task.cpp.tmpl"

def headerPath : String := "tasks/Task.hpp.tmpl"

def bundledTree : FileTree where
  here := ["templates"]
  entries := [
    (["templates", "tasks"], .directory),
    (["templates", "tasks", "Task.cpp.tmpl"], .file (Text.ofLines bodyLines).toUTF8),
    (["templates", "tasks", "Task.hpp.tmpl"], .file (Text.ofLines headerLines).toUTF8)]

end Scaffold.Template
