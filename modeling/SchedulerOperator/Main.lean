import SchedulerOperator.Definition

def main : IO Unit := IO.println SchedulerOperator.Definition.yaml
